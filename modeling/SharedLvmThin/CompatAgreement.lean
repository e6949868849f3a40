import SharedLvmThin.CompatBundle

/-! Whether a bundle that a gate leaves with the verdict `RETEST_REQUIRED` is one that the
  aggregator
accepts. -/

namespace SharedLvmThin.Compat
open Perl KeyedLists Python

/-- The gate finishes with the verdict `RETEST_REQUIRED`. -/
structure Finishes (lib : Library) (file : PlanFile) (args : Arguments) (machine : Machine)
    (bundle : Bundle) : Prop where
  gate : gate lib file args machine = .ok bundle
  verdict : (bundle.document.get "verdict").isText "RETEST_REQUIRED" = true

/-- The recorded outputs satisfy the content checks: those of the known tools, and those across
the outputs. -/
structure ContentOk (lib : Library) (args : Arguments) (machine : Machine) (bundle : Bundle)
    (plan : Plan) : Prop where
  outputs : ∀ spec ∈ stepSpecs args machine.staging, ∀ data,
    bundle.file (spec.name ++ ".stdout") = some data →
      ∃ terminal, checkContent lib machine.host spec.name data = .ok terminal
  across : ∃ data terminal scope evidence,
    bundle.file "contract-catalogue.stdout" = some data ∧
      checkContent lib machine.host "contract-catalogue" data = .ok (some terminal) ∧
        plan.nodes.lookup machine.host = some scope ∧
          crossChecks lib machine.host bundle plan machine.bootStart scope machine.started
            machine.finished terminal (args.candidateDebs ≠ []) = .ok evidence

/-- The age limits of a bundle, in seconds. -/
def WithinAge (machine : Machine) (now maxAgeSec : Int) : Prop :=
  -300 * second ≤ now - machine.finished ∧ now - machine.finished ≤ maxAgeSec * second

/-- The aggregator accepts the plan throughout its window, and the bundle within its age limits if
its outputs satisfy the content checks. -/
structure Agrees (lib : Library) (file : PlanFile) (args : Arguments) (machine : Machine)
    (document : Json) (bundle : Bundle) : Prop where
  plan : ∀ now, InWindow lib document now → ∃ plan, loadPlan lib file now = .ok plan
  bundle : ∀ plan planNow now maxAgeSec, loadPlan lib file planNow = .ok plan →
    WithinAge machine now maxAgeSec → ContentOk lib args machine bundle plan →
      ∃ evidence, inspectBundle lib bundle plan (sha256 file.bytes) now maxAgeSec = .ok evidence

section
variable {lib : Library} {file : PlanFile} {args : Arguments} {machine : Machine} {bundle : Bundle}
  {host : String}

/-- The induction is on the rows of the loop. -/
theorem inspectSteps_known {rows : List Json} {passed result : Passed}
    (h : inspectSteps lib host bundle passed rows = .ok result) :
    ∀ row ∈ rows, (row.get "name").text ∈ requiredSteps ++ optionalSteps := by
  induction rows generalizing passed with
  | nil => exact fun row hrow => absurd hrow List.not_mem_nil
  | cons step rest ih =>
    simp only [inspectSteps, bind_eq_ok, exists_unit, dieIf_eq_ok, Bool.or_eq_false_iff,
      decide_eq_false_iff_not, not_not] at h
    obtain ⟨-, ⟨-, hknown⟩, terminal, -, hrest⟩ := h
    intro row hrow
    rcases List.mem_cons.mp hrow with rfl | hrow
    · exact hknown
    · exact ih hrest row hrow

theorem inspectBundle_known {plan : Plan} {planSha256 : String} {now maxAgeSec : Int}
    {evidence : NodeEvidence}
    (h : inspectBundle lib bundle plan planSha256 now maxAgeSec = .ok evidence) :
    ∀ row ∈ (bundle.document.get "steps").items,
      (row.get "name").text ∈ requiredSteps ++ optionalSteps := by
  simp only [inspectBundle, bind_eq_ok, exists_unit, dieIf_eq_ok] at h
  obtain ⟨-, -, -, -, started, -, collected, -, -, -, -, -, -, h⟩ := h
  split at h
  · cases h
  · simp only [bind_eq_ok, exists_unit, dieIf_eq_ok] at h
    obtain ⟨-, -, -, -, passed, hpassed, -⟩ := h
    exact inspectSteps_known hpassed

/-- Every gate runs the lifecycle adapter, which no aggregator knows. -/
theorem inspectBundle_refuses (hgate : gate lib file args machine = .ok bundle) {plan : Plan}
    {planSha256 : String} {now maxAgeSec : Int} {evidence : NodeEvidence} :
    inspectBundle lib bundle plan planSha256 now maxAgeSec ≠ .ok evidence := by
  intro h
  simp only [gate, bind_eq_ok, exists_unit, dieIf_eq_ok, pure_eq_ok] at hgate
  obtain ⟨-, ⟨document, node⟩, -, -, rfl⟩ := hgate
  have hlifecycle : runStep ⟨"lifecycle-adapter", [tool "sharedlvmthin-lifecycle-adapter-check"],
    60, [3]⟩
      (machine.tools "lifecycle-adapter") ∈
        ((gateDocument lib file args machine document node).get "steps").items := by
    have hsteps : ((gateDocument lib file args machine document node).get "steps").items =
        (stepSpecs args machine.staging).map fun spec => runStep spec (machine.tools spec.name) :=
          rfl
    rw [hsteps]
    exact List.mem_map.mpr ⟨_, by simp [stepSpecs], rfl⟩
  have hknown : "lifecycle-adapter" ∈ requiredSteps ++ optionalSteps :=
    inspectBundle_known h _ hlifecycle
  exact absurd hknown (by decide)

theorem loadPlan_result {document : Json} {plan : Plan} {now : Int}
    (hdocument : strictLoad lib file.bytes = .ok document)
    (h : loadPlan lib file now = .ok plan) : plan = readPlan document := by
  simp only [loadPlan, readRegular, bind_eq_ok, exists_unit, dieIf_eq_ok, pure_eq_ok] at h
  obtain ⟨bytes, ⟨-, rfl⟩, read, hread, -, -, -, -, -, -, -, -, -, -, -, -, -, -, -, -, -, -, -, -,
    -,
    hplan⟩ := h
  rw [hdocument] at hread
  cases hread
  exact hplan.symm

/-- A gate and the aggregator agree exactly on a sound plan whose outputs fail the content checks:
no bundle is accepted. -/
theorem agrees_iff {document : Json} (hdocument : strictLoad lib file.bytes = .ok document)
    (h : Finishes lib file args machine bundle) :
    Agrees lib file args machine document bundle ↔
      Sound lib file document ∧ ¬ ContentOk lib args machine bundle (readPlan document) := by
  have hgate := h.gate
  have hrefuses := fun plan now maxAgeSec evidence =>
    @inspectBundle_refuses _ _ _ _ _ hgate plan (sha256 file.bytes) now maxAgeSec evidence
  simp only [gate, bind_eq_ok, exists_unit, dieIf_eq_ok, pure_eq_ok, decide_eq_false_iff_not,
    not_not] at hgate
  obtain ⟨hphase, ⟨plan, node⟩, hplan, -, -⟩ := hgate
  obtain ⟨a, b, haccepted, hstarted, hended⟩ := gateAccepted_of_ok hplan
  obtain rfl : document = plan := Except.ok.inj (hdocument.symm.trans haccepted.load)
  have hnow : InWindow lib document machine.started :=
    ⟨a, b, haccepted.fromEq, haccepted.untilEq, hstarted, hended⟩
  constructor
  · intro h
    obtain ⟨plan, hloaded⟩ := h.plan machine.started hnow
    refine ⟨(loadPlan_iff hphase hplan hnow).mp ⟨plan, hloaded⟩, fun hcontent => ?_⟩
    rw [← loadPlan_result hdocument hloaded] at hcontent
    obtain ⟨evidence, hevidence⟩ := h.bundle plan machine.started machine.finished 0 hloaded
      (by constructor <;> simp [second]) hcontent
    exact hrefuses _ _ _ _ hevidence
  · rintro ⟨hsound, hcontent⟩
    refine ⟨fun now hinside => (loadPlan_iff hphase hplan hinside).mpr hsound, ?_⟩
    intro plan planNow now maxAgeSec hloaded _ hok
    rw [loadPlan_result hdocument hloaded] at hok
    exact absurd hok hcontent

end

/-! ## A quiet node -/

def hexOf (c : Char) : String := String.ofList (List.replicate 64 c)

theorem isHex_hexOf {c : Char} (hc : isLowerHex c = true) : isHex (hexOf c) = true := by
  simp [isHex, hexOf, exactly, hc]

theorem hexText_str (s : String) : hexText (.str s) = isHex s := rfl

theorem hexStr_str (s : String) : hexStr (.str s) = isHex s := rfl

theorem isHex_sha256 (bytes : String) : isHex (sha256 bytes) = true := by
  rw [isHex, exactly_iff, sha256, String.toList_ofList]
  refine ⟨Sha256.hex_length _, fun c hc => ?_⟩
  simp only [Sha256.hex, List.mem_flatMap, Sha256.hexWord, List.mem_map] at hc
  obtain ⟨w, -, i, -, rfl⟩ := hc
  exact Sha256.hexDigit_isLowerHex _

def quietUuid : String := "01234567-89ab-cdef-0123-456789abcdef"

def quietNode : Json := .dict [("host", .str "pve1"), ("storage_scope_sha256", .str (hexOf 'a'))]

def quietDescriptor : Json :=
  .dict [("contract_fingerprint", .str (hexOf 'a')), ("package_flavor", .str "dual"),
    ("running_kernel", .str "k"), ("plugin_payload_sha256", .str (hexOf 'a'))]

def quietPlan : Json :=
  .dict [("kind", .str "cluster-compatibility-plan"), ("schema", .int 1),
    ("run_id", .str quietUuid),
    ("phase", .str "pre-upgrade"), ("cluster_id_sha256", .str (hexOf 'a')),
    ("upgrade_plan_sha256", .str (hexOf 'a')), ("collector_sha256", .str (hexOf 'a')),
    ("lab_runner_sha256", .str (hexOf 'a')), ("valid_from", .str "2026-01-01T00:00:00Z"),
    ("valid_until", .str "2026-01-01T12:00:00Z"), ("eligible_nodes", .list [quietNode]),
    ("candidate_packages", .list []),
    ("plugin_artifacts", .dict [("dual_sha256", .str (hexOf 'a')),
      ("thick_sha256", .str (hexOf 'a'))]),
    ("required_transitions", .list []),
    ("class_descriptors", .list [quietDescriptor])]

def quietTerminal : Json :=
  .dict [("valid", .bool true), ("upgrade_authorized", .bool false),
    ("qualification_ready", .bool true),
    ("scenario_registry_sha256", .str (hexOf 'b')), ("blocked_scenarios", .list [])]

def quietContract : Json :=
  .dict [("compatibility_contract_catalogue",
    .dict [("ok", .bool true), ("sha256", .str (hexOf 'c'))]),
    ("critical_files", .dict [(registryPath, .str (hexOf 'b'))]),
    ("storage_contract", .dict [("canonical_sha256", .str (hexOf 'a'))])]

def quietBody : Json :=
  .dict [("kind", .str "inventory"), ("collection_complete", .bool true), ("host", .str "pve1"),
    ("contract_fingerprint", .str (sha256 quietContract.dumps)),
    ("boot_id_file_sha256", .str (sha256 (quietUuid ++ "\n"))), ("contract", quietContract)]

def quietInventory : Json := .dict [("inventory", quietBody)]

def quietTerminalText : String :=
  " " ++ ("\x7b\"valid\":true,\"upgrade_authorized\":" ++ "false,\"qualification_ready\":true," ++
    "\"scenario_registry_sha256\":\"" ++ hexOf 'b' ++ "\",\"blocked_scenarios\":[]\x7d")

def quietInventoryText : String :=
  "\n" ++ ("\x7b\"inventory\":\x7b\"kind\":\"inventory\"," ++ "\"collection_complete\":true," ++
    "\"host\":\"pve1\",\"contract_fingerprint\":\"" ++ sha256 quietContract.dumps ++
    "\",\"boot_id_file_sha256\":\"" ++ sha256 (quietUuid ++ "\n") ++ "\",\"contract\":" ++
    "\x7b\"compatibility_contract_catalogue\":\x7b\"ok\":true,\"sha256\":\"" ++ hexOf 'c' ++
    "\"\x7d,\"critical_files\":\x7b\"" ++ registryPath ++ "\":\"" ++ hexOf 'b' ++
    "\"\x7d,\"storage_contract\":\x7b\"canonical_sha256\":\"" ++ hexOf 'a' ++ "\"\x7d\x7d\x7d\x7d")

def quietMarkers : List String := qmdestroyMarkers ++ ["CONTRACT_VARIANT=API15"]

def quietDigest : String := "CONTRACT_SHA256=" ++ hexOf 'a'

def quietDestroy : List String := quietMarkers ++ [quietDigest]

/-- A blank before a JSON text tells the texts apart. -/
def quietLoads (text : String) : Except String Json :=
  if text = quietTerminalText then .ok quietTerminal
  else if text = quietInventoryText then .ok quietInventory
  else if text = quietPlan.dumps then .ok quietPlan
  else .error "Expecting value"

def quietLibrary : Library where
  decode := .ok
  loads := quietLoads
  fromisoformat text :=
    if text = "2026-01-01T00:00:00+00:00" then .ok ⟨1767225600000000, true⟩
    else if text = "2026-01-01T12:00:00+00:00" then .ok ⟨1767268800000000, true⟩
    else .error "Invalid isoformat string"
  isoformat _ := "2026-01-01T06:00:00+00:00"

def quietOutput (name : String) : String :=
  if name = "contract-catalogue" then quietTerminalText
  else if name = "qmdestroy-contract" then unlines quietDestroy
  else if name ∈ ["upstream-inventory", "upstream-inventory-final"] then quietInventoryText
  else if name = "compat-check" then unlines ["COMPATIBILITY=PASS"]
  else if name = "upgrade-check" then unlines ["UPGRADE_SAFE=YES", "UPGRADE_SCAN_COMPLETE=YES"]
  else ""

def quietMachine : Machine where
  host := "pve1"
  collector := hexOf 'a'
  bootStart := quietUuid
  bootFinish := quietUuid
  started := 1767247200000000
  finished := 1767247200000000
  staging := "/root/quiet"
  tools name :=
    { returncode := some (if name = "lifecycle-adapter" then 3 else 0)
      timedOut := false
      error := none
      stdout := some (quietOutput name)
      stderr := some "" }

def quietArguments : Arguments := ⟨"pre-upgrade", none, []⟩

def quietFile : PlanFile := ⟨true, quietPlan.dumps⟩

def quietBundle : Bundle :=
  let document :=
    gateDocument quietLibrary quietFile quietArguments quietMachine quietPlan quietNode
  { document := document
    size := (document.indented 0 ++ "\n").length
    digest := sha256 (document.indented 0 ++ "\n")
    files := (stepSpecs quietArguments quietMachine.staging).flatMap fun spec =>
      outputs spec (quietMachine.tools spec.name) }

theorem length_hexOf (c : Char) : (hexOf c).length = 64 := by
  simp [hexOf]

theorem length_sha256 (bytes : String) : (sha256 bytes).length = 64 := by
  rw [sha256, String.length_ofList, Sha256.hex_length]

theorem length_quietTerminalText : quietTerminalText.length ≤ sizeLimit := by
  delta quietTerminalText
  simp only [String.length_append, length_hexOf]
  decide +kernel

theorem length_quietInventoryText : quietInventoryText.length ≤ sizeLimit := by
  delta quietInventoryText
  simp only [String.length_append, length_hexOf, length_sha256]
  decide +kernel

theorem quietDigest_toList : quietDigest.toList =
    ['C', 'O', 'N', 'T', 'R', 'A', 'C', 'T', '_', 'S', 'H', 'A', '2', '5', '6', '='] ++
      List.replicate 64 'a' := by
  have hname : "CONTRACT_SHA256=".toList =
    ['C', 'O', 'N', 'T', 'R', 'A', 'C', 'T', '_', 'S', 'H', 'A', '2', '5', '6', '='] := rfl
  have hsplit : quietDigest.toList = "CONTRACT_SHA256=".toList ++ (hexOf 'a').toList :=
    String.toList_append
  have hhex : (hexOf 'a').toList = List.replicate 64 'a' := String.toList_ofList
  rw [hsplit, hname, hhex]

theorem length_unlines (lines : List String) :
    (unlines lines).length = (lines.map fun line => line.length + 1).sum := by
  simp [unlines, List.length_flatMap, String.length_toList]

theorem length_quietDigest : quietDigest.length = 80 := by
  rw [← String.length_toList, quietDigest_toList]
  rfl

-- An instance is evaluated before what follows it.
instance quietMarkers_read : Fact (((quietMarkers.map fun line => line.length + 1).sum ≤ 300 ∧
      ∀ line ∈ quietMarkers, line.length < 80) ∧
    quietMarkers.all (fun line => line.toList.all fun c => !isLineBreak c) = true ∧
    (∀ marker ∈ qmdestroyMarkers, quietMarkers.count marker = 1) ∧
    (quietMarkers.filter fun line =>
      line ∈ ["CONTRACT_VARIANT=API14", "CONTRACT_VARIANT=API15"]).length = 1 ∧
    ∀ line ∈ quietMarkers, startsWith "CONTRACT_SHA256=" line = false ∧
      startsWith "QMDestroy_CONTRACT=RETEST_REQUIRED" line = false) :=
  ⟨by decide +kernel⟩

theorem length_quietDestroy : (unlines quietDestroy).length ≤ sizeLimit := by
  have hmarkers := quietMarkers_read.out.1.1
  have hlimit : 381 ≤ sizeLimit := by decide
  rw [length_unlines, quietDestroy, List.map_append, List.sum_append, List.map_singleton,
    length_quietDigest, List.sum_singleton]
  omega

theorem quietOutput_length (name : String) : (quietOutput name).length ≤ sizeLimit := by
  unfold quietOutput
  split_ifs
  · exact length_quietTerminalText
  · exact length_quietDestroy
  · exact length_quietInventoryText
  · decide
  · decide
  · decide

theorem kept_eq {raw : String} (h : raw.length ≤ sizeLimit) : kept raw = raw := by
  rw [kept, List.take_of_length_le (String.length_toList ▸ h), String.ofList_toList]

theorem quiet_passed (spec : StepSpec)
    (hcode : (if spec.name = "lifecycle-adapter" then (3 : Int) else 0) ∈ spec.accepted) :
    hasPassed spec (quietMachine.tools spec.name) = true := by
  have hsmall : isTruncated (quietOutput spec.name) = false :=
    decide_eq_false (not_lt.mpr (quietOutput_length spec.name))
  have hempty : isTruncated "" = false := by decide
  simp [hasPassed, isComplete, quietMachine, hsmall, hempty, hcode]

theorem quiet_blocking :
    blockingSteps quietMachine (stepSpecs quietArguments quietMachine.staging) = [] := by
  have hall : ∀ spec ∈ stepSpecs quietArguments quietMachine.staging,
      hasPassed spec (quietMachine.tools spec.name) = true := by
    have hcodes : ∀ spec ∈ stepSpecs quietArguments quietMachine.staging,
        (if spec.name = "lifecycle-adapter" then (3 : Int) else 0) ∈ spec.accepted := by decide
    exact fun spec hspec => quiet_passed spec (hcodes spec hspec)
  have hnone : (stepSpecs quietArguments quietMachine.staging).filter
      (fun spec => !hasPassed spec (quietMachine.tools spec.name)) = [] := by
    rw [List.filter_eq_nil_iff]
    intro spec hspec
    rw [hall spec hspec]
    decide
  rw [blockingSteps, hnone]
  rfl

theorem append_ne {s t : String} {c d : Char} (hs : s.toList = [c]) (ht : t.toList = [d])
    (h : c ≠ d) (u v : String) : s ++ u ≠ t ++ v := by
  intro heq
  have htext := congrArg String.toList heq
  rw [String.toList_append, String.toList_append, hs, ht] at htext
  exact h (List.cons.inj htext).1

theorem dumps_dict_ne (fields : List (String × Json)) {start : String} {c : Char}
    (hstart : start.toList = [c]) (h : '\x7b' ≠ c) (rest : String) :
    (Json.dict fields).dumps ≠ start ++ rest := by
  rw [Json.dumps, String.append_assoc]
  exact append_ne rfl hstart h _ _

theorem quiet_strictLoad (text : String) : strictLoad quietLibrary text = quietLoads text := rfl

theorem quiet_loads_plan : strictLoad quietLibrary quietPlan.dumps = .ok quietPlan := by
  have hterminal : quietPlan.dumps ≠ quietTerminalText :=
    dumps_dict_ne _ (rfl : " ".toList = [' ']) (by decide) _
  have hinventory : quietPlan.dumps ≠ quietInventoryText :=
    dumps_dict_ne _ (rfl : "\n".toList = ['\n']) (by decide) _
  rw [quiet_strictLoad, quietLoads, if_neg hterminal, if_neg hinventory, if_pos rfl]

theorem quiet_document : strictLoad quietLibrary quietFile.bytes = .ok quietPlan := quiet_loads_plan

theorem quiet_loadPlan :
    loadPlanOfGate quietLibrary quietFile "pre-upgrade" "pve1" 1767247200000000 =
    .ok (quietPlan, quietNode) := by
  have hhex : isHex (hexOf 'a') = true := isHex_hexOf rfl
  have hdigests : ∀ field ∈ digestFields, hexText (quietPlan.get field) = true := by
    have hget : ∀ field ∈ digestFields, quietPlan.get field = .str (hexOf 'a') := by
      simp only [digestFields, List.forall_mem_cons]
      exact ⟨rfl, rfl, rfl, rfl, fun _ hfield => absurd hfield List.not_mem_nil⟩
    intro field hfield
    rw [hget field hfield, hexText_str, hhex]
  have hscope : hexText (quietNode.get "storage_scope_sha256") = true := by
    have hget : quietNode.get "storage_scope_sha256" = .str (hexOf 'a') := rfl
    rw [hget, hexText_str, hhex]
  have hnode : isNode (fun _ => true) hexText quietNode = true := by
    have hrecord : quietNode.isRecord ["host", "storage_scope_sha256"] = true := by decide
    have hhost : (quietNode.get "host").isStr = true := rfl
    rw [isNode, hrecord, hhost, hscope]
    rfl
  have hartifacts : areArtifacts hexText (quietPlan.get "plugin_artifacts") = true := by
    have hrecord : (quietPlan.get "plugin_artifacts").isRecord artifactKeys = true := by decide
    have hget : ∀ key ∈ artifactKeys, (quietPlan.get "plugin_artifacts").get key =
      .str (hexOf 'a') := by
      simp only [artifactKeys, List.forall_mem_cons]
      exact ⟨rfl, rfl, fun _ hkey => absurd hkey List.not_mem_nil⟩
    rw [areArtifacts, hrecord, Bool.true_and, List.all_eq_true]
    intro key hkey
    rw [hget key hkey, hexText_str, hhex]
  have hdescriptor : isDescriptor quietDescriptor = true := by
    have hrecord : quietDescriptor.isRecord ["contract_fingerprint", "package_flavor",
        "running_kernel", "plugin_payload_sha256"] = true := by decide
    have hflavor : (quietDescriptor.get "package_flavor").isText "dual" = true := by decide
    have hkernel : nonEmptyStr (quietDescriptor.get "running_kernel") = true := by decide
    have hfingerprint : quietDescriptor.get "contract_fingerprint" = .str (hexOf 'a') := rfl
    have hpayload : quietDescriptor.get "plugin_payload_sha256" = .str (hexOf 'a') := rfl
    simp only [isDescriptor, hrecord, hflavor, hkernel, hfingerprint, hpayload, hexStr_str, hhex,
      Bool.true_or, Bool.and_self]
  have hfrom : moment quietLibrary (quietPlan.get "valid_from") = .ok ⟨1767225600000000, true⟩ := by
    rfl
  have huntil : moment quietLibrary (quietPlan.get "valid_until") =
    .ok ⟨1767268800000000, true⟩ := by
    rfl
  simp only [loadPlanOfGate, bind_eq_ok, exists_unit, dieIf_eq_ok, candidates_ok,
    Bool.not_eq_false',
    forEach_eq_ok, Bool.or_eq_false_iff, decide_eq_false_iff_not]
  refine ⟨quietPlan, quiet_loads_plan, by decide, by decide, ⟨by decide, by decide +kernel⟩,
    hdigests,
    by decide, _, hfrom, by decide, _, huntil, by decide, by decide, ⟨?_, by decide⟩, by decide,
    ⟨by decide, by decide⟩, hartifacts, by decide, ⟨by decide, by decide⟩, by decide,
    ⟨?_, by decide⟩, by decide, ?_⟩
  · rw [List.all_eq_true]
    intro row hrow
    rw [List.mem_singleton.mp hrow]
    exact hnode
  · rw [List.all_eq_true]
    intro row hrow
    rw [List.mem_singleton.mp hrow]
    exact hdescriptor
  · have hlocal : (quietPlan.get "eligible_nodes").items.filter
        (fun row => (row.get "host").isText "pve1") = [quietNode] := by
      rfl
    rw [hlocal]
    simp only [hscope, dieIf_eq_ok, bind_unit_eq_ok, Bool.not_true, pure_eq_ok, true_and]

theorem quiet_finishes :
    Finishes quietLibrary quietFile quietArguments quietMachine quietBundle where
  gate := by
    have hcollector : (quietPlan.get "collector_sha256").isText (hexOf 'a') = true :=
      beq_self_eq_true (hexOf 'a')
    simp only [gate, bind_eq_ok, exists_unit, dieIf_eq_ok, pure_eq_ok]
    refine ⟨by decide, (quietPlan, quietNode), quiet_loadPlan, ?_, rfl⟩
    rw [Bool.not_eq_false']
    exact hcollector
  verdict := by
    have hverdict : quietBundle.document.get "verdict" = .str
        (if blockingSteps quietMachine (stepSpecs quietArguments quietMachine.staging) = [] then
          "RETEST_REQUIRED" else "BLOCKED") := rfl
    rw [hverdict, quiet_blocking]
    rfl

theorem quiet_file {spec : StepSpec}
    (hspec : spec ∈ stepSpecs quietArguments quietMachine.staging) :
    quietBundle.file (spec.name ++ ".stdout") = some (quietOutput spec.name) := by
  have hkept : quietBundle.file (spec.name ++ ".stdout") = some (kept (quietOutput spec.name)) := by
    simp only [stepSpecs, quietArguments, inventoryStep, if_true, List.append_nil, List.cons_append,
      List.nil_append, List.mem_cons, List.not_mem_nil, or_false] at hspec
    rcases hspec with rfl | rfl | rfl | rfl | rfl | rfl | rfl
    all_goals rfl
  rw [hkept, kept_eq (quietOutput_length _)]

theorem quiet_loads_terminal : strictLoad quietLibrary quietTerminalText = .ok quietTerminal := by
  rw [quiet_strictLoad, quietLoads, if_pos rfl]

theorem quiet_loads_inventory : strictLoad quietLibrary quietInventoryText =
    .ok quietInventory := by
  have hterminal : quietInventoryText ≠ quietTerminalText :=
    append_ne (rfl : "\n".toList = ['\n']) (rfl : " ".toList = [' ']) (by decide) _ _
  rw [quiet_strictLoad, quietLoads, if_neg hterminal, if_pos rfl]

theorem all_plain {lines : List String}
    (h : lines.all (fun line => line.toList.all fun c => !isLineBreak c) = true) :
    splitlines (unlines lines) = lines := by
  refine splitlines_unlines fun line hline c hc => ?_
  simpa using List.all_eq_true.mp (List.all_eq_true.mp h line hline) c hc

theorem quiet_lines : splitlines (unlines quietDestroy) = quietDestroy := by
  have hmarkers := quietMarkers_read.out.2.1
  have hdigest : quietDigest.toList.all (fun c => !isLineBreak c) = true := by
    rw [quietDigest_toList, List.all_append, Bool.and_eq_true]
    exact ⟨by decide, by decide⟩
  refine all_plain ?_
  rw [quietDestroy, List.all_append, hmarkers, List.all_cons, hdigest]
  rfl

theorem startsWith_quietDigest : startsWith "CONTRACT_SHA256=" quietDigest = true := by
  have hname : "CONTRACT_SHA256=".toList =
    ['C', 'O', 'N', 'T', 'R', 'A', 'C', 'T', '_', 'S', 'H', 'A', '2', '5', '6', '='] := rfl
  rw [startsWith, quietDigest_toList, hname]
  rfl

theorem afterFirst_quietDigest : afterFirst '=' quietDigest = hexOf 'a' := by
  rw [afterFirst, quietDigest_toList, hexOf]
  rfl

theorem quiet_destroy : isQualifiedDestroy quietDestroy = true := by
  obtain ⟨⟨-, hlength⟩, -, hcount, hfilter, hstart⟩ := quietMarkers_read.out
  have hother : ∀ line ∈ quietMarkers, line ≠ quietDigest := by
    rintro line hline rfl
    exact absurd (hlength _ hline) (by rw [length_quietDigest]; decide)
  have hmarkers : qmdestroyMarkers.all (fun marker => quietDestroy.count marker = 1) = true := by
    rw [List.all_eq_true]
    intro marker hmarker
    have hmem : marker ∈ quietMarkers := List.mem_append_left _ hmarker
    have hnone : [quietDigest].count marker = 0 :=
      List.count_eq_zero.mpr fun h => hother marker hmem (List.mem_singleton.mp h)
    rw [quietDestroy, List.count_append, hcount marker hmarker, hnone]
    rfl
  have hvariant : (quietDestroy.filter fun line =>
      line ∈ ["CONTRACT_VARIANT=API14", "CONTRACT_VARIANT=API15"]).length = 1 := by
    have hdigest : quietDigest ∉ ["CONTRACT_VARIANT=API14", "CONTRACT_VARIANT=API15"] := by
      have hlength : ∀ line ∈ ["CONTRACT_VARIANT=API14", "CONTRACT_VARIANT=API15"],
          line.length = 22 := by decide
      intro hmem
      exact absurd (length_quietDigest.symm.trans (hlength _ hmem)) (by decide)
    rw [quietDestroy, List.filter_append, List.length_append, hfilter,
      List.filter_cons_of_neg (by simpa using hdigest)]
    rfl
  have hsha : (quietDestroy.filter fun line =>
      startsWith "CONTRACT_SHA256=" line && isHex (afterFirst '=' line)).length = 1 := by
    have hnone : quietMarkers.filter (fun line =>
        startsWith "CONTRACT_SHA256=" line && isHex (afterFirst '=' line)) = [] := by
      rw [List.filter_eq_nil_iff]
      intro line hline
      rw [(hstart line hline).1, Bool.false_and]
      exact Bool.false_ne_true
    have hhex : isHex (hexOf 'a') = true := isHex_hexOf rfl
    rw [quietDestroy, List.filter_append, hnone, List.nil_append, List.filter_cons_of_pos]
    · rfl
    · rw [startsWith_quietDigest, afterFirst_quietDigest, hhex]
      rfl
  have hretest : quietDestroy.any (startsWith "QMDestroy_CONTRACT=RETEST_REQUIRED") = false := by
    have hretested := fun line hline => (hstart line hline).2
    have hdigest : startsWith "QMDestroy_CONTRACT=RETEST_REQUIRED" quietDigest = false := by
      rw [startsWith, quietDigest_toList]
      rfl
    rw [quietDestroy, List.any_append, List.any_eq_false.mpr (by simpa using hretested), List.any_cons,
      hdigest]
    rfl
  rw [isQualifiedDestroy, hmarkers, hvariant, hsha, hretest]
  rfl

section
variable {data text : String}

theorem checkContent_catalogue {terminal : Json}
    (h : catalogueContent lib host data = .ok terminal) :
    checkContent lib host "contract-catalogue" data = .ok (some terminal) := by
  rw [checkContent, if_pos rfl, h]
  rfl

theorem checkContent_qmdestroy (hdecode : lib.decode data = .ok text)
    (h : isQualifiedDestroy (splitlines text) = true) :
    checkContent lib host "qmdestroy-contract" data = .ok none := by
  rw [checkContent, if_neg (by decide), if_pos rfl, hdecode]
  simp only [bind, Except.bind, h]
  rfl

theorem checkContent_compat (hdecode : lib.decode data = .ok text)
    (h : splitlines text = ["COMPATIBILITY=PASS"]) :
    checkContent lib host "compat-check" data = .ok none := by
  rw [checkContent, if_neg (by decide), if_neg (by decide), if_pos rfl, hdecode]
  simp only [bind, Except.bind, h]
  rfl

theorem checkContent_upgrade (hdecode : lib.decode data = .ok text)
    (h : splitlines text = ["UPGRADE_SAFE=YES", "UPGRADE_SCAN_COMPLETE=YES"]) :
    checkContent lib host "upgrade-check" data = .ok none := by
  rw [checkContent, if_neg (by decide), if_neg (by decide), if_neg (by decide), if_pos rfl, hdecode]
  simp only [bind, Except.bind, h]
  rfl

theorem checkContent_other {name : String}
    (h : name ∉ ["contract-catalogue", "qmdestroy-contract", "compat-check", "upgrade-check"]) :
    checkContent lib host name data = .ok none := by
  simp only [List.mem_cons, List.not_mem_nil, or_false, not_or] at h
  rw [checkContent, if_neg h.1, if_neg h.2.1, if_neg h.2.2.1, if_neg h.2.2.2]
  rfl

end

theorem quiet_catalogue : catalogueContent quietLibrary "pve1" quietTerminalText =
    .ok quietTerminal := by
  have hdigest : hexStr (quietTerminal.get "scenario_registry_sha256") = true := by
    have hget : quietTerminal.get "scenario_registry_sha256" = .str (hexOf 'b') := rfl
    rw [hget, hexStr_str, isHex_hexOf rfl]
  simp only [catalogueContent, bind_eq_ok, exists_unit, dieIf_eq_ok, pure_eq_ok]
  refine ⟨quietTerminal, quiet_loads_terminal, by decide, by decide, by decide, ?_, by decide, rfl⟩
  rw [hdigest]
  rfl

theorem quiet_outputs {spec : StepSpec}
    (hspec : spec ∈ stepSpecs quietArguments quietMachine.staging) :
    ∃ terminal, checkContent quietLibrary "pve1" spec.name (quietOutput spec.name) =
      .ok terminal := by
  simp only [stepSpecs, quietArguments, inventoryStep, if_true, List.append_nil, List.cons_append,
    List.nil_append, List.mem_cons, List.not_mem_nil, or_false] at hspec
  rcases hspec with rfl | rfl | rfl | rfl | rfl | rfl | rfl
  · exact ⟨_, checkContent_catalogue quiet_catalogue⟩
  · exact ⟨none, checkContent_other (by decide)⟩
  · exact ⟨none, checkContent_qmdestroy rfl (quiet_lines ▸ quiet_destroy)⟩
  · exact ⟨none, checkContent_other (by decide)⟩
  · exact ⟨none, checkContent_compat rfl (all_plain (by decide))⟩
  · exact ⟨none, checkContent_upgrade rfl (all_plain (by decide))⟩
  · exact ⟨none, checkContent_other (by decide)⟩

theorem Bundle.read_eq {bundle : Bundle} {name data : String} (hfile : bundle.file name = some data)
    (hsmall : data.length ≤ sizeLimit) : bundle.read name = .ok data := by
  have hlarge : decide (data.length > sizeLimit) = false := decide_eq_false (not_lt.mpr hsmall)
  simp only [Bundle.read, hfile, hlarge]
  rfl

theorem quiet_inventory {name : String}
    (hname : name ∈ ["upstream-inventory", "upstream-inventory-final"]) :
    loadOutput quietLibrary quietBundle (name ++ ".stdout") = .ok quietInventory := by
  have hspec : inventoryStep quietArguments name ∈
      stepSpecs quietArguments quietMachine.staging := by
    simp only [List.mem_cons, List.not_mem_nil, or_false] at hname
    rcases hname with rfl | rfl <;> simp [stepSpecs]
  have houtput : quietOutput name = quietInventoryText := by
    rcases List.mem_pair.mp hname with rfl | rfl
    all_goals
      rw [quietOutput, if_neg (by decide), if_neg (by decide), if_pos (by decide)]
  have hfile : quietBundle.file (name ++ ".stdout") = some (quietOutput name) := quiet_file hspec
  rw [houtput] at hfile
  have hread := Bundle.read_eq hfile length_quietInventoryText
  simp only [loadOutput, hread, bind, Except.bind]
  exact quiet_loads_inventory

theorem isText_str (s : String) : (Json.str s).isText s = true := beq_self_eq_true s

theorem quiet_across : ∃ evidence, crossChecks quietLibrary "pve1" quietBundle (readPlan quietPlan)
    quietUuid (hexOf 'a') 1767247200000000 1767247200000000 quietTerminal false = .ok evidence := by
  have hfirst := @quiet_inventory "upstream-inventory" (by decide)
  have hlast := @quiet_inventory "upstream-inventory-final" (by decide)
  have hfingerprint : quietBody.get "contract_fingerprint" = .str (sha256 quietContract.dumps) :=
    rfl
  have hboot : quietBody.get "boot_id_file_sha256" = .str (sha256 (quietUuid ++ "\n")) := rfl
  have hhost : (quietBody.get "host").isText "pve1" = true := isText_str _
  have hcatalogue : hexStr (((quietContract.fields.lookup "compatibility_contract_catalogue").getD
      (.dict [])).get "sha256") = true := by
    have hget : ((quietContract.fields.lookup "compatibility_contract_catalogue").getD
        (.dict [])).get "sha256" = .str (hexOf 'c') := rfl
    rw [hget, hexStr_str, isHex_hexOf rfl]
  have hregistry : (((quietContract.fields.lookup "critical_files").getD (.dict [])).get
      registryPath).same (quietTerminal.get "scenario_registry_sha256") = true := by
    have hget : ((quietContract.fields.lookup "critical_files").getD (.dict [])).get registryPath =
      .str (hexOf 'b') := rfl
    have hterminal : quietTerminal.get "scenario_registry_sha256" = .str (hexOf 'b') := rfl
    rw [hget, hterminal, Json.same, decide_eq_true rfl]
  have hscope : (((quietContract.fields.lookup "storage_contract").getD (.dict [])).get
      "canonical_sha256").isText (hexOf 'a') = true := isText_str _
  have hdigest : decide (sha256 (quietBody.get "contract").dumps ≠
      (quietBody.get "contract_fingerprint").text) = false := by
    have hget : quietBody.get "contract" = quietContract := rfl
    rw [hfingerprint, hget]
    exact decide_eq_false (not_not.mpr rfl)
  simp only [crossChecks, bind_eq_ok, exists_unit, dieIf_eq_ok, pure_eq_ok]
  refine ⟨_, quietInventory, hfirst, quietBody, rfl, ?_, ?_, ?_, quietContract, rfl, _, rfl, ?_, _,
    rfl, _,
    rfl, ?_, hdigest, _, rfl, _, rfl, ?_, quietInventory, hlast, quietBody, rfl, ?_, hdigest, [],
      rfl, ?_,
    _, rfl, _, rfl, rfl⟩
  · rw [hhost]
    rfl
  · rw [hfingerprint, hexStr_str, isHex_sha256]
    rfl
  · rw [hboot, isText_str]
    rfl
  · rw [hcatalogue]
    rfl
  · rw [hregistry]
    rfl
  · rw [hscope]
    rfl
  · rw [hhost, hfingerprint, hboot, isText_str, Json.text, isText_str]
    rfl
  · rfl

theorem quiet_content :
    ContentOk quietLibrary quietArguments quietMachine quietBundle (readPlan quietPlan) where
  outputs := by
    intro spec hspec data hdata
    rw [quiet_file hspec, Option.some.injEq] at hdata
    rw [← hdata]
    exact quiet_outputs hspec
  across := by
    obtain ⟨evidence, hevidence⟩ := quiet_across
    have hfile : quietBundle.file "contract-catalogue.stdout" = some quietTerminalText :=
      quiet_file (List.mem_cons_self)
    exact ⟨quietTerminalText, quietTerminal, hexOf 'a', evidence, hfile,
      checkContent_catalogue quiet_catalogue, rfl, hevidence⟩

/-- The same node as a case of the theorem. -/
theorem quiet_disagrees :
    ¬ Agrees quietLibrary quietFile quietArguments quietMachine quietPlan quietBundle := fun h =>
  ((agrees_iff quiet_document quiet_finishes).mp h).2 quiet_content

/-- A node whose every output is in order is refused: the aggregator does not know the step of the
lifecycle adapter. -/
theorem quiet_bundle_refused : ¬ ∀ lib file args machine document bundle,
    strictLoad lib file.bytes = .ok document → Finishes lib file args machine bundle →
      Agrees lib file args machine document bundle := by
  intro hall
  have hagrees := hall _ _ _ _ _ _ quiet_document quiet_finishes
  have hnow : InWindow quietLibrary quietPlan 1767247200000000 :=
    ⟨⟨1767225600000000, true⟩, ⟨1767268800000000, true⟩, rfl, rfl, by decide, by decide⟩
  obtain ⟨plan, hplan⟩ := hagrees.plan _ hnow
  have hread := loadPlan_result quiet_document hplan
  have hage : WithinAge quietMachine 1767247200000000 3600 := by
    constructor <;> decide
  obtain ⟨evidence, hevidence⟩ := hagrees.bundle plan _ _ _ hplan hage (hread ▸ quiet_content)
  exact inspectBundle_refuses quiet_finishes.gate hevidence

end SharedLvmThin.Compat
