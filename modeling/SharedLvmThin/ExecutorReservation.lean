import SharedLvmThin.PerlData

/-! The admission of a Thick executor. A reservation record moves from RESERVED through BOUND to
TERMINAL or UNKNOWN; five evaluators decide on the record that the per-volume slot holds and on
claims that any caller may present. -/

namespace SharedLvmThin.ExecutorReservation
open Perl

/-! ## Patterns -/

/-- Groups of given lengths, joined by dashes. -/
def dashed (isPart : Char → Bool) (lengths : List Nat) (s : String) : Bool :=
  (s.toList.splitOn '-').map List.length = lengths &&
    (s.toList.splitOn '-').all fun part => part.all isPart

/-- `/\A[A-Za-z0-9]{6}(?:-[A-Za-z0-9]{4}){5}-[A-Za-z0-9]{6}\z/` -/
def isVgUuid (s : String) : Bool := dashed Char.isAlphanum [6, 4, 4, 4, 4, 4, 6] s

/-- `/\A[a-f0-9]{8}-[a-f0-9]{4}-[a-f0-9]{4}-[a-f0-9]{4}-[a-f0-9]{12}\z/` -/
def isBootId (s : String) : Bool := dashed isLowerHex [8, 4, 4, 4, 12] s

/-- `/\A(?:vm|base)-[1-9][0-9]*-disk-[0-9]+\z/` -/
def isVolume (s : String) : Bool :=
  match s.toList.splitOn '-' with
  | [type, vmid, disk, index] =>
    (type = ['v', 'm'] || type = ['b', 'a', 's', 'e']) && vmid.all Char.isDigit &&
      vmid.head?.any (· ≠ '0') && disk = ['d', 'i', 's', 'k'] && index ≠ [] && index.all Char.isDigit
  | _ => false

/-- `/\A[A-Za-z0-9][A-Za-z0-9_.-]*\z/` -/
def isNode (s : String) : Bool :=
  match s.toList with
  | [] => false
  | c :: rest => c.isAlphanum && rest.all fun d => d.isAlphanum || d ∈ ['_', '.', '-']

/-- `_exact_bool` -/
def exactBool (v : Value) : Bool :=
  v.isDefined && !v.isRef && (v.text = "0" || v.text = "1")

/-- A positive proof: an exact boolean that is `1`. -/
def proven (v : Value) : Bool := exactBool v && v.text = "1"

/-! ## Records -/

def identityFields : List String :=
  ["schema", "kind", "enrollment_epoch", "vg_uuid", "volume", "object_key", "transaction", "attempt",
    "node", "boot_id", "unit", "code_digest", "policy_digest"]

def allowedFields : List String := identityFields ++ ["state", "invocation_id", "executor_result"]

/-- A field of fixed length in lower-case hexadecimal. -/
def checkHex (record : Value) (length : Nat) (field : String) : Except String Unit :=
  dieIf (!exactly length isLowerHex (record.get field).text)
    ("invalid executor reservation " ++ field ++ "\n")

def unitPrefix (record : Value) : String :=
  if (record.get "kind").text = "THICK_EXECUTOR_LAB" then "slt-thick-lab-exec-" else "slt-thick-exec-"

def checkIdentity (record : Value) : Except String Unit := do
  dieIf (!(record.get "schema").isDefined || (record.get "schema").isRef ||
    (record.get "schema").text ≠ "1") "unsupported executor reservation schema\n"
  dieIf ((record.get "kind").text ∉ ["THICK_EXECUTOR", "THICK_EXECUTOR_LAB"])
    "invalid executor reservation kind\n"
  forEach ["enrollment_epoch", "code_digest", "policy_digest"] (checkHex record 64)
  dieIf (!isVgUuid (record.get "vg_uuid").text) "invalid executor reservation VG UUID\n"
  dieIf (!isVolume (record.get "volume").text) "invalid executor reservation volume\n"
  dieIf (!exactly 24 isLowerHex (record.get "object_key").text)
    "invalid executor reservation object key\n"
  forEach ["transaction", "attempt"] (checkHex record 32)
  dieIf (!isNode (record.get "node").text) "invalid executor reservation node\n"
  dieIf (!isBootId (record.get "boot_id").text) "invalid executor reservation boot ID\n"
  dieIf ((record.get "unit").text ≠ unitPrefix record ++ (record.get "attempt").text ++ ".service")
    "invalid executor reservation unit\n"

def checkInvocation (record : Value) : Except String Unit :=
  if (record.get "state").text = "RESERVED" then
    dieIf (record.has "invocation_id" || record.has "executor_result")
      "reserved executor already has runtime identity\n"
  else
    dieIf (!exactly 32 isLowerHex (record.get "invocation_id").text)
      "bound executor has invalid invocation ID\n"

def checkResult (record : Value) : Except String Unit :=
  if (record.get "state").text = "TERMINAL" then
    dieIf ((record.get "executor_result").text ∉ ["SUCCESS", "FAILED"])
      "terminal executor has invalid result\n"
  else
    dieIf (record.has "executor_result") "non-terminal executor carries a result\n"

/-- `validate_executor_record` -/
def validateExecutorRecord (record : Value) : Except String Unit := do
  dieIf (!record.isHash) "executor reservation must be an object\n"
  forEach record.fields fun field => dieIf (field.1 ∉ allowedFields)
    ("unknown executor reservation field '" ++ field.1 ++ "'\n")
  checkIdentity record
  dieIf ((record.get "state").text ∉ ["RESERVED", "BOUND", "TERMINAL", "UNKNOWN"])
    "invalid executor reservation state\n"
  checkInvocation record
  checkResult record

def isValid (record : Value) : Bool := (validateExecutorRecord record).toBool

/-- `_executor_identity_equal` -/
def identityEqual (left right : Value) : Bool :=
  identityFields.all fun field => (left.get field).text = (right.get field).text

/-! ## Evaluators -/

inductive Action
  | blocked
  | reserveAtomic
  | bindAtomic
  | dispatchExactInvocation
  | markUnknown
  | markTerminal
  | closeAtomicExact
deriving DecidableEq

structure Result where
  allowed : Bool
  action : Action
  reason : Option String
  dispatchAllowed : Option Bool
  record : Option Value
  expectedRecord : Option Value

/-- `_blocked` -/
def blocked (reason : String) : Result := ⟨false, .blocked, some reason, none, none, none⟩

def admitted (action : Action) (record : Option Value) : Result :=
  ⟨true, action, none, some false, record, none⟩

/-- The evaluators run a validation under `eval` and quote its death. -/
def validated (record : Value) (label : String) (next : Result) : Result :=
  match validateExecutorRecord record with
  | .error message => blocked (label ++ message)
  | .ok _ => next

def evaluateExecutorReserve (requested existing continuityProven attemptFreshProven : Value) :
    Result :=
  validated requested "requested executor reservation is malformed: " <|
  if (requested.get "state").text ≠ "RESERVED" then
    blocked "new executor reservation must start in RESERVED state"
  else if !proven continuityProven then
    blocked "executor admission continuity is not positively proven"
  else if !proven attemptFreshProven then
    blocked "execution attempt freshness is not positively proven"
  else if existing.isDefined then
    blocked ("a per-volume executor reservation already exists; same transaction and timeout " ++
      "takeover are forbidden")
  else
    admitted .reserveAtomic none

def evaluateExecutorBind (record claim : Value) : Result :=
  validated record "executor reservation is malformed: " <|
  let identity := claim.get "identity"
  if (record.get "state").text ≠ "RESERVED" then
    blocked "only a RESERVED executor may bind an invocation"
  else if !claim.isHash then
    blocked "executor bind claim is unavailable"
  else if !identity.isHash || !isValid identity || !identityEqual record identity then
    blocked "executor bind identity changed"
  else if (identity.get "state").text ≠ "RESERVED" then
    blocked "executor bind claim must describe the exact RESERVED record"
  else if !exactly 32 isLowerHex (claim.get "invocation_id").text then
    blocked "executor invocation ID is invalid"
  else if !proven (claim.get "startup_proven") then
    blocked "executor startup proof is not an exact boolean"
  else
    admitted .bindAtomic (some ((record.set "state" (.str "BOUND")).set "invocation_id"
      (claim.get "invocation_id")))

/-- The claim describes the bound invocation of a record. -/
def describesBound (record identity : Value) : Bool :=
  identity.isHash && isValid identity && identityEqual record identity &&
    (identity.get "state").text = "BOUND" &&
    (identity.get "invocation_id").text = (record.get "invocation_id").text

def evaluateExecutorDispatch (persisted claim bindingPersisted : Value) : Result :=
  validated persisted "persisted executor reservation is malformed: " <|
  if (persisted.get "state").text ≠ "BOUND" then
    blocked "dispatch requires an authoritatively persisted BOUND reservation"
  else if !claim.isHash then
    blocked "executor dispatch claim is unavailable"
  else if !describesBound persisted (claim.get "identity") then
    blocked "executor dispatch identity changed"
  else if !proven bindingPersisted then
    blocked "persisted executor binding is not positively confirmed"
  else
    ⟨true, .dispatchExactInvocation, none, some true, none, none⟩

def evidenceFields : List String :=
  ["cgroup_terminal", "pending_jobs_absent", "io_terminal", "storage_postcondition_proven"]

def evaluateExecutorFinish (record evidence : Value) : Result :=
  validated record "executor reservation is malformed: " <|
  if (record.get "state").text ≠ "BOUND" then
    blocked "only a BOUND executor may publish terminal evidence"
  else if !evidence.isHash then
    blocked "executor terminal evidence is unavailable"
  else if !describesBound record (evidence.get "identity") then
    blocked "executor terminal identity changed"
  else
    match evidenceFields.find? fun field => !exactBool (evidence.get field) with
    | some field => blocked ("executor " ++ field ++ " evidence is not an exact boolean")
    | none =>
      let complete := evidenceFields.all fun field => (evidence.get field).text = "1"
      let result := evidence.get "executor_result"
      if !complete || result.text ∉ ["SUCCESS", "FAILED"] then
        admitted .markUnknown (some (record.set "state" (.str "UNKNOWN")))
      else
        admitted .markTerminal (some ((record.set "state" (.str "TERMINAL")).set "executor_result"
          result))

def evaluateExecutorClose (current expected : Value) : Result :=
  validated current "current executor reservation is malformed: " <|
  validated expected "expected executor reservation is malformed: " <|
  if !identityEqual current expected ||
      (current.get "invocation_id").text ≠ (expected.get "invocation_id").text then
    blocked "stale executor closer cannot close another attempt or invocation"
  else if (current.get "state").text ≠ "TERMINAL" || (expected.get "state").text ≠ "TERMINAL" ||
      (current.get "executor_result").text ≠ (expected.get "executor_result").text then
    blocked "only exact terminal executor evidence permits normal close"
  else
    ⟨true, .closeAtomicExact, none, some false, none, some current⟩

/-! ## The slot -/

/-- What callers may present; the record itself is always the one the slot holds. -/
inductive Call
  | reserve (requested continuityProven attemptFreshProven : Value)
  | bind (claim : Value)
  | dispatch (claim bindingPersisted : Value)
  | finish (evidence : Value)
  | close (expected : Value)

/-- The record of a volume's slot, if any. -/
abbrev Slot := Option Value

def evaluate (slot : Slot) : Call → Result
  | .reserve requested continuity fresh =>
    evaluateExecutorReserve requested (slot.getD .undef) continuity fresh
  | .bind claim => evaluateExecutorBind (slot.getD .undef) claim
  | .dispatch claim persisted => evaluateExecutorDispatch (slot.getD .undef) claim persisted
  | .finish evidence => evaluateExecutorFinish (slot.getD .undef) evidence
  | .close expected => evaluateExecutorClose (slot.getD .undef) expected

/-- Only an allowed result changes the slot. -/
def update (slot : Slot) (call : Call) : Slot :=
  if (evaluate slot call).allowed then
    match call with
    | .reserve requested _ _ => some requested
    | .bind _ => (evaluate slot call).record
    | .dispatch _ _ => slot
    | .finish _ => (evaluate slot call).record
    | .close _ => none
  else
    slot

def run (slot : Slot) (calls : List Call) : Slot := calls.foldl update slot

end SharedLvmThin.ExecutorReservation
