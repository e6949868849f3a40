import SharedLvmThin.PythonData
import SharedLvmThin.Sha256

/-! The collection plan of a compatibility round. The gate of every node and the aggregator read
the same file with a validator each. The readers of the standard library are parameters. -/

namespace SharedLvmThin.Compat
open Perl KeyedLists Python

/-- A timestamp in microseconds, with or without a time zone. -/
structure Moment where
  utc : Int
  aware : Bool

/-- `bytes.decode`, `json.loads` without duplicate names, and the timestamps of `datetime`. -/
structure Library where
  decode : String → Except String String
  loads : String → Except String Json
  fromisoformat : String → Except String Moment
  isoformat : Int → String

/-- A file read through its path; only the aggregator refuses a symbolic link. -/
structure PlanFile where
  regular : Bool
  bytes : String

def sizeLimit : Nat := 4 * 1024 * 1024

def sha256 (bytes : String) : String :=
  String.ofList (Sha256.hex (Sha256.run (bytes.toList.map Char.toNat)))

/-! ## Patterns -/

/-- `HEX_RE` -/
def isHex (s : String) : Bool := exactly 64 isLowerHex s

/-- `RUN_ID_RE` of the gate and `BOOT_RE` of the aggregator. -/
def isUuid (s : String) : Bool :=
  match (s.toList.splitOn '-').map String.ofList with
  | [a, b, c, d, e] => exactly 8 isLowerHex a && exactly 4 isLowerHex b && exactly 4 isLowerHex c &&
      exactly 4 isLowerHex d && exactly 12 isLowerHex e
  | _ => false

/-- `PLAN_ID_RE` of the gate and `HOST_RE` of the aggregator. -/
def isHost (s : String) : Bool :=
  match s.toList with
  | [] => false
  | [c] => c.isAlphanum
  | c :: rest => c.isAlphanum && rest.length ≤ 252 && rest.getLast?.any Char.isAlphanum &&
      rest.dropLast.all fun d => d.isAlphanum || d ∈ ['.', '-']

/-- `HEX_RE.fullmatch(str(v))` -/
def hexText (v : Json) : Bool := isHex v.text

/-- `isinstance(v, str) and HEX_RE.fullmatch(v)` -/
def hexStr (v : Json) : Bool := v.isStr && isHex v.text

def nonEmptyStr (v : Json) : Bool := v.isStr && v.text ≠ ""

/-! ## Rows -/

def planKeys : List String :=
  ["kind", "schema", "run_id", "phase", "cluster_id_sha256", "upgrade_plan_sha256",
    "collector_sha256", "valid_from", "valid_until", "eligible_nodes", "candidate_packages",
    "plugin_artifacts", "lab_runner_sha256", "required_transitions", "class_descriptors"]

def digestFields : List String :=
  ["cluster_id_sha256", "upgrade_plan_sha256", "collector_sha256", "lab_runner_sha256"]

def isSupported (plan : Json) : Bool :=
  (plan.get "kind").isText "cluster-compatibility-plan" && (plan.get "schema").isNumber 1

def isWithin (list : Json) (least most : Nat) : Bool :=
  list.isList && least ≤ list.items.length && list.items.length ≤ most

def hostOf (row : Json) : String := (row.get "host").text

/-- The row of one node; the aggregator wants a host name and a text. -/
def isNode (host hex : Json → Bool) (row : Json) : Bool :=
  row.isRecord ["host", "storage_scope_sha256"] && (row.get "host").isStr && host (row.get "host")
    &&
    hex (row.get "storage_scope_sha256")

def candidateKeys : List String := ["package", "version", "architecture"]

def isCandidate (hex : Json → Bool) (row : Json) : Bool :=
  row.isRecord ["package", "version", "architecture", "sha256"] &&
    candidateKeys.all (fun key => nonEmptyStr (row.get key)) && hex (row.get "sha256")

/-- A digest that is a number is not the digest of the same digits. -/
def candidateKey (row : Json) : List String × Bool :=
  (["package", "version", "architecture", "sha256"].map fun key => (row.get key).text,
    (row.get "sha256").isStr)

def artifactKeys : List String := ["dual_sha256", "thick_sha256"]

def areArtifacts (hex : Json → Bool) (artifacts : Json) : Bool :=
  artifacts.isRecord artifactKeys && artifactKeys.all fun key => hex (artifacts.get key)

/-- The row of one transition; the aggregator reads the text of a class. -/
def isTransition (hex : Json → Bool) (row : Json) : Bool :=
  row.isRecord ["id", "source_class", "destination_class", "direction", "order", "peer_classes"] &&
    (row.get "id").isStr && isHost (row.get "id").text && hex (row.get "source_class") &&
    hex (row.get "destination_class") &&
    ((row.get "direction").isText "old-to-new" || (row.get "direction").isText "new-to-old") &&
    (match row.get "order" with
      | .int n => 1 ≤ n
      | _ => false) &&
    (row.get "peer_classes").isList && (row.get "peer_classes").items.all hexStr &&
    decide ((row.get "peer_classes").items.map Json.text).Nodup

def isDescriptor (row : Json) : Bool :=
  row.isRecord ["contract_fingerprint", "package_flavor", "running_kernel",
    "plugin_payload_sha256"] &&
    hexStr (row.get "contract_fingerprint") &&
    ((row.get "package_flavor").isText "dual" || (row.get "package_flavor").isText "thick-only") &&
    nonEmptyStr (row.get "running_kernel") && hexStr (row.get "plugin_payload_sha256")

def areDistinct [DecidableEq κ] (key : Json → κ) (rows : List Json) : Bool :=
  decide (rows.map key).Nodup

def referencedClasses (transitions : List Json) : List Json :=
  transitions.flatMap fun row =>
    row.get "source_class" :: row.get "destination_class" :: (row.get "peer_classes").items

def areDescribed (plan : Json) : Bool :=
  (referencedClasses (plan.get "required_transitions").items).all fun v => v.isStr &&
    v.text ∈ (plan.get "class_descriptors").items.map fun row =>
      (row.get "contract_fingerprint").text

/-! ## The validator of the gate -/

section
variable (lib : Library)

/-- `_strict_load` -/
def strictLoad (bytes : String) : Except String Json := do
  let text ← lib.decode bytes
  lib.loads text

/-- `fromisoformat(v.replace("Z", "+00:00"))` of a text. -/
def moment (v : Json) : Except String Moment :=
  lib.fromisoformat (replaceChar 'Z' "+00:00" v.text)

def day : Int := 86400 * 1000000

/-- `_load_plan`: the plan and the row of the local node. -/
def loadPlanOfGate (file : PlanFile) (phase host : String) (now : Int) :
    Except String (Json × Json) := do
  let plan ← strictLoad lib file.bytes
  dieIf (!plan.isRecord planKeys) "collection plan has missing or unknown fields"
  dieIf (!isSupported plan) "unsupported collection plan"
  dieIf (!(plan.get "phase").isText phase || !isUuid (plan.get "run_id").text)
    "collection plan phase/run identity mismatch"
  forEach digestFields fun field =>
    dieIf (!hexText (plan.get field)) ("invalid collection plan " ++ field)
  dieIf (!(plan.get "valid_from").isStr) "object has no attribute 'replace'"
  let validFrom ← moment lib (plan.get "valid_from")
  dieIf (!(plan.get "valid_until").isStr) "object has no attribute 'replace'"
  let validUntil ← moment lib (plan.get "valid_until")
  dieIf (!validFrom.aware || !validUntil.aware || validFrom.utc > now || now > validUntil.utc ||
      validUntil.utc - validFrom.utc > day)
    "collection plan is outside its bounded validity window"
  let rows := plan.get "eligible_nodes"
  dieIf (!isWithin rows 1 4096) "collection plan has no eligible nodes"
  dieIf (!rows.items.all (isNode (fun _ => true) hexText) || !areDistinct hostOf rows.items)
    "collection plan has invalid or duplicate eligible node"
  let candidates := plan.get "candidate_packages"
  dieIf (!isWithin candidates 0 512) "collection plan candidate set is malformed"
  forEachSeen (fun seen row => do
    dieIf (!isCandidate hexText row) "collection plan candidate row is malformed"
    dieIf (seen.any fun earlier => candidateKey earlier = candidateKey row)
      "collection plan has duplicate candidate row") [] candidates.items
  dieIf (!areArtifacts hexText (plan.get "plugin_artifacts"))
    "collection plan plugin artifacts are malformed"
  let transitions := plan.get "required_transitions"
  dieIf (!isWithin transitions 0 128) "collection plan transition set is malformed"
  dieIf (!transitions.items.all (isTransition hexStr) ||
      !areDistinct (fun row => (row.get "id").text) transitions.items)
    "collection plan transition row is malformed"
  let descriptors := plan.get "class_descriptors"
  dieIf (!isWithin descriptors 1 256) "collection plan class descriptor set is malformed"
  dieIf (!descriptors.items.all isDescriptor ||
      !areDistinct (fun row => (row.get "contract_fingerprint").text) descriptors.items)
    "collection plan class descriptor row is malformed"
  dieIf (!areDescribed plan) "collection plan transition references an undescribed class"
  match rows.items.filter fun row => (row.get "host").isText host with
  | [row] =>
    dieIf (!hexText (row.get "storage_scope_sha256"))
      "local node is missing or ambiguous in collection plan"
    return (plan, row)
  | _ => .error "local node is missing or ambiguous in collection plan"

/-! ## The validator of the aggregator -/

/-- The plan with its `_nodes` and its sorted `_candidates`. -/
structure Plan where
  document : Json
  nodes : List (String × String)
  candidates : List (List String)

def readPlan (plan : Json) : Plan where
  document := plan
  nodes := (plan.get "eligible_nodes").items.map fun row =>
    (hostOf row, (row.get "storage_scope_sha256").text)
  candidates := sortBy id
    ((plan.get "candidate_packages").items.map fun row => (candidateKey row).1)

/-- `read_regular` -/
def readRegular (file : PlanFile) : Except String String := do
  dieIf (!file.regular || file.bytes.length > sizeLimit)
    "input is non-regular or exceeds its size limit"
  return file.bytes

/-- `_parse_time` -/
def parseTime (v : Json) : Except String Int := do
  dieIf (!v.isStr) "missing collection timestamp"
  let parsed ← moment lib v
  dieIf (!parsed.aware) "collection timestamp has no timezone"
  return parsed.utc

def loadPlan (file : PlanFile) (now : Int) : Except String Plan := do
  let bytes ← readRegular file
  let plan ← strictLoad lib bytes
  dieIf (!plan.isRecord planKeys) "collection plan has missing or unknown fields"
  dieIf (!isSupported plan) "unsupported collection plan"
  dieIf (!isUuid (plan.get "run_id").text) "invalid collection run id"
  dieIf (!((plan.get "phase").isText "pre-upgrade" || (plan.get "phase").isText "post-reboot"))
    "invalid collection phase"
  forEach digestFields fun field =>
    dieIf (!hexText (plan.get field)) ("invalid plan field: " ++ field)
  let validFrom ← parseTime lib (plan.get "valid_from")
  let validUntil ← parseTime lib (plan.get "valid_until")
  dieIf (validFrom > now || now > validUntil || validUntil - validFrom ≤ 0 ||
      validUntil - validFrom > day)
    "plan validity interval is inactive or excessive"
  let rows := plan.get "eligible_nodes"
  dieIf (!isWithin rows 1 4096) "plan has no eligible nodes"
  dieIf (!rows.items.all (isNode (fun v => isHost v.text) hexStr) || !areDistinct hostOf rows.items)
    "invalid or duplicate eligible node"
  let candidates := plan.get "candidate_packages"
  dieIf (!isWithin candidates 0 512) "plan candidate_packages is not a list"
  dieIf (!candidates.items.all (isCandidate hexStr)) "invalid candidate package row"
  dieIf (!areDistinct candidateKey candidates.items) "duplicate candidate package row"
  dieIf (!areArtifacts hexStr (plan.get "plugin_artifacts")) "invalid plugin artifact set"
  let transitions := plan.get "required_transitions"
  dieIf (!isWithin transitions 0 128) "invalid required transition set"
  dieIf (!transitions.items.all (isTransition hexText) ||
      !areDistinct (fun row => (row.get "id").text) transitions.items)
    "invalid required transition row"
  let descriptors := plan.get "class_descriptors"
  dieIf (!isWithin descriptors 1 256) "invalid class descriptor set"
  dieIf (!descriptors.items.all isDescriptor ||
      !areDistinct (fun row => (row.get "contract_fingerprint").text) descriptors.items)
    "invalid class descriptor row"
  dieIf (!areDescribed plan) "transition references an undescribed contract class"
  return readPlan plan

end

/-! ## The two validators -/

/-- What the aggregator asks of a plan beyond the gate: a plain file of bounded size, a window that
lasts, host names, and digests that are texts. -/
structure Sound (lib : Library) (file : PlanFile) (plan : Json) : Prop where
  regular : file.regular = true
  size : file.bytes.length ≤ sizeLimit
  window : ∀ a b, moment lib (plan.get "valid_from") = .ok a →
    moment lib (plan.get "valid_until") = .ok b → a.utc < b.utc
  hosts : ∀ row ∈ (plan.get "eligible_nodes").items, isHost (hostOf row) = true
  scopes : ∀ row ∈ (plan.get "eligible_nodes").items, (row.get "storage_scope_sha256").isStr = true
  candidates : ∀ row ∈ (plan.get "candidate_packages").items, (row.get "sha256").isStr = true
  artifacts : ∀ key ∈ artifactKeys, ((plan.get "plugin_artifacts").get key).isStr = true

/-- The validity window of a plan. -/
def InWindow (lib : Library) (plan : Json) (now : Int) : Prop :=
  ∃ a b, moment lib (plan.get "valid_from") = .ok a ∧
    moment lib (plan.get "valid_until") = .ok b ∧ a.utc ≤ now ∧ now ≤ b.utc

section
variable {lib : Library} {file : PlanFile} {phase host : String} {now : Int} {plan row : Json}

theorem hexStr_iff {v : Json} : hexStr v = true ↔ hexText v = true ∧ v.isStr = true := by
  rw [hexStr, hexText, Bool.and_eq_true, and_comm]

theorem isNode_iff : isNode (fun v => isHost v.text) hexStr row = true ↔
    isNode (fun _ => true) hexText row = true ∧ isHost (hostOf row) = true ∧
      (row.get "storage_scope_sha256").isStr = true := by
  simp only [isNode, hexStr_iff, Bool.and_eq_true, hostOf, and_true]
  tauto

theorem isCandidate_iff : isCandidate hexStr row = true ↔
    isCandidate hexText row = true ∧ (row.get "sha256").isStr = true := by
  simp only [isCandidate, hexStr_iff, Bool.and_eq_true]
  tauto

theorem areArtifacts_iff {artifacts : Json} : areArtifacts hexStr artifacts = true ↔
    areArtifacts hexText artifacts = true ∧
      ∀ key ∈ artifactKeys, (artifacts.get key).isStr = true := by
  simp only [areArtifacts, Bool.and_eq_true, List.all_eq_true, hexStr_iff, and_assoc]
  refine and_congr_right fun _ => ⟨fun h => ⟨fun key hkey => (h key hkey).1,
    fun key hkey => (h key hkey).2⟩, fun h key hkey => ⟨h.1 key hkey, h.2 key hkey⟩⟩

/-- The aggregator is the more lenient one on the classes of a transition. -/
theorem isTransition_text (h : isTransition hexStr row = true) : isTransition hexText row =
    true := by
  simp only [isTransition, hexStr_iff, Bool.and_eq_true] at h ⊢
  tauto

theorem parseTime_eq_ok {v : Json} {t : Int} : parseTime lib v = .ok t ↔
    v.isStr = true ∧ ∃ a, moment lib v = .ok a ∧ a.aware = true ∧ a.utc = t := by
  simp only [parseTime, bind_eq_ok, exists_unit, dieIf_eq_ok, pure_eq_ok, Bool.not_eq_false']

theorem candidates_ok {rows : List Json} :
    forEachSeen (fun seen row => do
        dieIf (!isCandidate hexText row) "collection plan candidate row is malformed"
        dieIf (seen.any fun earlier => candidateKey earlier = candidateKey row)
          "collection plan has duplicate candidate row") [] rows = .ok () ↔
      rows.all (isCandidate hexText) = true ∧ areDistinct candidateKey rows = true := by
  rw [forEachSeen_eq_ok (R := fun a b => candidateKey a ≠ candidateKey b)]
  · simp only [bind_unit_eq_ok, dieIf_eq_ok, List.any_nil, Bool.not_eq_false', and_true,
      List.not_mem_nil, false_imp_iff, implies_true, List.all_eq_true, areDistinct,
      decide_eq_true_eq, List.Nodup, List.pairwise_map]
  · intro seen a
    simp only [bind_unit_eq_ok, dieIf_eq_ok, List.any_nil, Bool.not_eq_false', and_true,
      List.any_eq_false, decide_eq_true_eq]

/-- What a plan that the gate accepted is known to satisfy. -/
structure GateAccepted (lib : Library) (file : PlanFile) (phase : String) (plan : Json)
    (a b : Moment) : Prop where
  load : strictLoad lib file.bytes = .ok plan
  keys : plan.isRecord planKeys = true
  supported : isSupported plan = true
  phase : (plan.get "phase").isText phase = true
  runId : isUuid (plan.get "run_id").text = true
  digests : ∀ field ∈ digestFields, hexText (plan.get field) = true
  fromStr : (plan.get "valid_from").isStr = true
  fromEq : moment lib (plan.get "valid_from") = .ok a
  untilStr : (plan.get "valid_until").isStr = true
  untilEq : moment lib (plan.get "valid_until") = .ok b
  aware : a.aware = true ∧ b.aware = true
  length : ¬ b.utc - a.utc > day
  nodes : isWithin (plan.get "eligible_nodes") 1 4096 = true ∧
    (plan.get "eligible_nodes").items.all (isNode (fun _ => true) hexText) = true ∧
      areDistinct hostOf (plan.get "eligible_nodes").items = true
  candidates : isWithin (plan.get "candidate_packages") 0 512 = true ∧
    (plan.get "candidate_packages").items.all (isCandidate hexText) = true ∧
      areDistinct candidateKey (plan.get "candidate_packages").items = true
  artifacts : areArtifacts hexText (plan.get "plugin_artifacts") = true
  transitions : isWithin (plan.get "required_transitions") 0 128 = true ∧
    (plan.get "required_transitions").items.all (isTransition hexStr) = true ∧
      areDistinct (fun row => (row.get "id").text) (plan.get "required_transitions").items = true
  descriptors : isWithin (plan.get "class_descriptors") 1 256 = true ∧
    (plan.get "class_descriptors").items.all isDescriptor = true ∧
      areDistinct (fun row => (row.get "contract_fingerprint").text)
        (plan.get "class_descriptors").items = true
  described : areDescribed plan = true

theorem gateAccepted_of_ok (h : loadPlanOfGate lib file phase host now = .ok (plan, row)) :
    ∃ a b, GateAccepted lib file phase plan a b ∧ a.utc ≤ now ∧ now ≤ b.utc := by
  simp only [loadPlanOfGate, bind_eq_ok, exists_unit, dieIf_eq_ok, candidates_ok,
    Bool.not_eq_false',
    forEach_eq_ok, Bool.or_eq_false_iff, decide_eq_false_iff_not] at h
  obtain ⟨document, hload, hkeys, hsupported, ⟨hphase, hrun⟩, hdigests, hfromStr, a, hfrom,
    huntilStr,
    b, huntil, ⟨⟨⟨haware, hstarted⟩, hended⟩, hlength⟩, hrows, hnodes, hcandidates, hcandidate,
    hartifacts, htransitions, htransition, hdescriptors, hdescriptor, hdescribed, hlocal⟩ := h
  have hplan : document = plan := by
    split at hlocal
    · simp only [bind_unit_eq_ok, pure_eq_ok, Prod.mk.injEq] at hlocal
      exact hlocal.2.1
    · cases hlocal
  subst hplan
  exact ⟨a, b, ⟨hload, hkeys, hsupported, hphase, hrun, hdigests, hfromStr, hfrom, huntilStr,
    huntil,
    haware, hlength, ⟨hrows, hnodes⟩, ⟨hcandidates, hcandidate⟩, hartifacts,
    ⟨htransitions, htransition⟩, ⟨hdescriptors, hdescriptor⟩, hdescribed⟩, not_lt.mp hstarted,
    not_lt.mp hended⟩

theorem GateAccepted.known_phase {a b : Moment} (h : GateAccepted lib file phase plan a b)
    (hphase : phase ∈ ["pre-upgrade", "post-reboot"]) :
    ((plan.get "phase").isText "pre-upgrade" || (plan.get "phase").isText "post-reboot") =
      true := by
  have hthis := h.phase
  simp only [List.mem_cons, List.not_mem_nil, or_false] at hphase
  rcases hphase with rfl | rfl <;> simp [hthis]

/-- A plan that the gate accepts is accepted by the aggregator, at a time of its window, exactly
when it is sound. -/
theorem loadPlan_iff (hphase : phase ∈ ["pre-upgrade", "post-reboot"])
    (hgate : loadPlanOfGate lib file phase host now = .ok (plan, row)) {later : Int}
    (hlater : InWindow lib plan later) :
    (∃ result, loadPlan lib file later = .ok result) ↔ Sound lib file plan := by
  obtain ⟨a, b, h, -, -⟩ := gateAccepted_of_ok hgate
  obtain ⟨a', b', hfrom, huntil, hstarted, hended⟩ := hlater
  obtain rfl : a = a' := Except.ok.inj (h.fromEq.symm.trans hfrom)
  obtain rfl : b = b' := Except.ok.inj (h.untilEq.symm.trans huntil)
  simp only [loadPlan, readRegular, parseTime_eq_ok, bind_eq_ok, exists_unit, dieIf_eq_ok,
    pure_eq_ok,
    Bool.not_eq_false', forEach_eq_ok, Bool.or_eq_false_iff, decide_eq_false_iff_not, not_lt,
      not_le]
  constructor
  · rintro ⟨result, bytes, ⟨⟨hregular, hsize⟩, rfl⟩, document, hload, -, -, -, -, -, from',
    ⟨-, a', hfrom', -, rfl⟩,
      until', ⟨-, b', huntil', -, rfl⟩, ⟨⟨-, hlasts⟩, -⟩, -, ⟨hnodes, -⟩, -, hcandidates, -,
        hartifacts, -⟩
    obtain rfl : plan = document := Except.ok.inj (h.load.symm.trans hload)
    have hnode := fun row hrow => isNode_iff.mp (List.all_eq_true.mp hnodes row hrow)
    exact {
      regular := hregular
      size := hsize
      window := by
        intro x y hx hy
        rw [hfrom'] at hx
        rw [huntil'] at hy
        cases hx
        cases hy
        omega
      hosts := fun row hrow => (hnode row hrow).2.1
      scopes := fun row hrow => (hnode row hrow).2.2
      candidates := fun row hrow =>
        (isCandidate_iff.mp (List.all_eq_true.mp hcandidates row hrow)).2
      artifacts := (areArtifacts_iff.mp hartifacts).2 }
  · intro hsound
    have hlasts := hsound.window a b hfrom huntil
    have hnodes : (plan.get "eligible_nodes").items.all (isNode (fun v => isHost v.text) hexStr) =
        true := by
      rw [List.all_eq_true]
      exact fun row hrow => isNode_iff.mpr ⟨List.all_eq_true.mp h.nodes.2.1 row hrow,
        hsound.hosts row hrow, hsound.scopes row hrow⟩
    have hcandidates : (plan.get "candidate_packages").items.all (isCandidate hexStr) = true := by
      rw [List.all_eq_true]
      exact fun row hrow => isCandidate_iff.mpr
        ⟨List.all_eq_true.mp h.candidates.2.1 row hrow, hsound.candidates row hrow⟩
    have htransitions : (plan.get "required_transitions").items.all (isTransition hexText) =
      true := by
      rw [List.all_eq_true]
      exact fun row hrow => isTransition_text (List.all_eq_true.mp h.transitions.2.1 row hrow)
    exact ⟨readPlan plan, file.bytes, ⟨⟨hsound.regular, hsound.size⟩, rfl⟩, plan, h.load, h.keys,
      h.supported, h.runId, h.known_phase hphase, h.digests, a.utc,
      ⟨h.fromStr, a, hfrom, h.aware.1, rfl⟩, b.utc, ⟨h.untilStr, b, huntil, h.aware.2, rfl⟩,
      ⟨⟨⟨hstarted, hended⟩, by omega⟩, by simpa using h.length⟩, h.nodes.1, ⟨hnodes, h.nodes.2.2⟩,
      h.candidates.1, hcandidates, h.candidates.2.2,
      areArtifacts_iff.mpr ⟨h.artifacts, hsound.artifacts⟩, h.transitions.1,
      ⟨htransitions, h.transitions.2.2⟩, h.descriptors.1, h.descriptors.2, h.described, rfl⟩

end

end SharedLvmThin.Compat
