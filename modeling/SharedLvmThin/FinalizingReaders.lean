import SharedLvmThin.AsciiJson

/-! A FINALIZING journal has three readers: the client that recovers it, the runtime observer that
takes its head, and the executor that completes it. Each checks the rows with its own table of
  stages
and its own JSON. -/

namespace SharedLvmThin.FinalizingReaders
open Perl KeyedLists
open DestroyJournal hiding advance nextStage

def items : Value → List Value
  | .array vs => vs
  | _ => []

/-- `JSON::PP::is_bool($v) && $v` -/
def isTrue : Value → Bool
  | .bool b => b
  | _ => false

/-- `{ %$a, %$b }` -/
def merge (a b : Value) : Value := .hash (a.fields.filter (fun field => !b.has field.1) ++ b.fields)

def observationFields : String := "authority,durable,last_sha256,records,schema,stage"

def recordFields : String :=
  "authority,context,context_sha256,evidence,previous_sha256,request_id,schema,sequence,stage"

/-! ## The client -/

/-- `%next` of the client. -/
def stageAfter : String → Option String
  | "PREPARED" => some "DISPATCHED"
  | "DISPATCHED" => some "STORAGE_ABSENT"
  | "STORAGE_ABSENT" => some "FINALIZING"
  | "FINALIZING" => some "COMPLETE"
  | _ => none

/-- `_advance` -/
def advance (previous stage : Value) : Bool :=
  if !stage.isDefined || stage.isRef then false
  else if !previous.isDefined then stage.text = "PREPARED"
  else if previous.text = "COMPLETE" || previous.text = "PARTIAL_OR_UNKNOWN" then false
  else if stage.text = "PARTIAL_OR_UNKNOWN" then true
  else if previous.text = "FINALIZING" && stage.text = "FINALIZING" then true
  else stageAfter previous.text = some stage.text

structure Loaded where
  previous : Option String
  stage : Value
  sequence : Nat
  records : List Value

/-- What the client hands on of a row. -/
def handOn (row : Value) : Value :=
  .hash [("stage", row.get "stage"),
    ("receipt", merge ((row.get "context").get "receipt") (row.get "evidence"))]

def loadRecord (requestId : String) (own : Value) (loaded : Loaded) (row : Value) :
    Except String Loaded := do
  need (row.isHash && fieldNames row = recordFields) "record fields"
  need ((row.get "schema").text = journalSchema && (row.get "authority").text = "NONE" &&
    (row.get "request_id").text = requestId) "record identity"
  let sequence ← perlJson (row.get "sequence")
  need (sequence = toString (loaded.sequence + 1) && advance loaded.stage (row.get "stage"))
    "record sequence/stage"
  let previous ← perlJson (row.get "previous_sha256")
  let link ← perlJson (optionalText loaded.previous)
  need (previous = link) "record chain"
  let context ← perlJson (row.get "context")
  let ownContext ← perlJson own
  let ownDigest ← perlDigest own
  need (context = ownContext && (row.get "context_sha256").text = ownDigest) "record context"
  let receipt := (row.get "context").get "receipt"
  need (fieldNames (row.get "context") = "receipt,schema" &&
    ((row.get "context").get "schema").text = coreSchema && receipt.isHash &&
    fieldNames receipt = ",".intercalate (sortBy id core) && (receipt.get "txid").text = requestId)
    "executor core"
  need ((row.get "evidence").isHash && ((row.get "evidence").get "evidence").isHash &&
    (row.get "evidence").fields.all fun field => field.1 ∈ extra) "stage evidence"
  let hash ← perlDigest row
  return ⟨some hash, row.get "stage", loaded.sequence + 1, loaded.records ++ [handOn row]⟩

def loadRecords (requestId : String) (own : Value) (loaded : Loaded) : List Value →
    Except String Loaded
  | [] => .ok loaded
  | row :: rest => do
    let loaded ← loadRecord requestId own loaded row
    loadRecords requestId own loaded rest

section
variable (jsonDecode : String → Except String Value)

/-- `_decode` -/
def decodeResponse (raw : String) (limit : Nat) : Except String Value := do
  need (raw.length ≤ limit) "invalid response bytes"
  match jsonDecode raw with
  | .error _ => .error "VM destroy journal bridge refused: noncanonical response\n"
  | .ok value =>
    need value.isHash "noncanonical response"
    let text ← perlJson value
    need (raw = text ++ "\n") "noncanonical response"
    return value

/-- `_load_existing`, given what the helper printed: the history that it hands on. -/
def loadExisting (c : Client) (raw : String) : Except String Value := do
  prepareLoad c
  let own := c.context.getD .undef
  let value ← decodeResponse jsonDecode raw (32 * limit + 4096)
  need (fieldNames value = observationFields) "observation fields"
  need ((value.get "schema").text = journalSchema && (value.get "authority").text = "NONE" &&
    isTrue (value.get "durable")) "not durable NONE journal"
  need ((value.get "records").isArray && 4 ≤ (items (value.get "records")).length &&
    (items (value.get "records")).length ≤ 32) "invalid recovery record count"
  let loaded ← loadRecords c.requestId own ⟨none, .undef, 0, []⟩ (items (value.get "records"))
  let head := loaded.previous.getD ""
  need ((value.get "stage").text = loaded.stage.text && (value.get "last_sha256").text = head)
    "observed head mismatch"
  need (loaded.stage.text = "FINALIZING")
    "only exact FINALIZING is recoverable; terminal/other states refused"
  let _ ← perlJson (.array loaded.records)
  let contextDigest ← perlDigest own
  return .hash [("durable", .num "1"), ("records", .array loaded.records), ("stage", loaded.stage),
    ("request_id", .str c.requestId), ("last_sha256", .str head),
      ("context_sha256", .str contextDigest)]

end

/-! ## The observer -/

def runtimeNeed (good : Bool) (message : String) : Except String Unit :=
  dieIf (!good) ("VM_DESTROY_RUNTIME_REFUSED: " ++ message ++ "\n")

/-- `%next` of the observer and of the executor. -/
def finalizingAfter : String → Option String
  | "PREPARED" => some "DISPATCHED"
  | "DISPATCHED" => some "STORAGE_ABSENT"
  | "STORAGE_ABSENT" => some "FINALIZING"
  | "FINALIZING" => some "FINALIZING"
  | _ => none

def expectedStage (stage : Value) : Option String :=
  if stage.isDefined then finalizingAfter stage.text else some "PREPARED"

structure Observed where
  previous : Option String
  stage : Value
  sequence : Nat

def headRecord (txid : String) (context : Value) (seen : Observed) (row : Value) :
    Except String Observed := do
  runtimeNeed (row.isHash && fieldNames row = recordFields) "recovery journal record fields"
  let sequence ← (row.get "sequence").canonical
  runtimeNeed ((row.get "schema").text = journalSchema && (row.get "authority").text = "NONE" &&
    (row.get "request_id").text = txid && sequence = toString (seen.sequence + 1))
    "recovery journal record identity"
  runtimeNeed (expectedStage seen.stage = some (row.get "stage").text)
    "recovery journal stage/terminal mismatch"
  let previous ← perlJson (row.get "previous_sha256")
  let link ← perlJson (optionalText seen.previous)
  runtimeNeed (previous = link) "recovery journal broken chain"
  let rowContext ← perlJson (row.get "context")
  let ownContext ← perlJson context
  let ownDigest ← perlDigest context
  runtimeNeed (rowContext = ownContext && (row.get "context_sha256").text = ownDigest)
    "recovery journal context mismatch"
  let text ← perlJson row
  runtimeNeed ((row.get "evidence").isHash && text.length + 1 ≤ 1024 * 1024)
    "recovery journal evidence/size"
  let hash ← perlDigest row
  return ⟨some hash, row.get "stage", seen.sequence + 1⟩

def headRecords (txid : String) (context : Value) (seen : Observed) : List Value →
    Except String Observed
  | [] => .ok seen
  | row :: rest => do
    let seen ← headRecord txid context seen row
    headRecords txid context seen rest

/-- `_finalizing_head` -/
def finalizingHead (value : Value) (txid : String) (context : Value) : Except String String := do
  runtimeNeed (value.isHash && fieldNames value = observationFields) "recovery journal fields"
  runtimeNeed ((value.get "schema").text = journalSchema && (value.get "authority").text = "NONE" &&
    isTrue (value.get "durable") && (value.get "stage").text = "FINALIZING")
    "recovery journal not durable FINALIZING"
  runtimeNeed ((value.get "records").isArray && 4 ≤ (items (value.get "records")).length &&
    (items (value.get "records")).length ≤ 32) "recovery journal record count"
  let seen ← headRecords txid context ⟨none, .undef, 0⟩ (items (value.get "records"))
  let head := seen.previous.getD ""
  runtimeNeed (seen.stage.text = "FINALIZING" && (value.get "last_sha256").text = head)
    "recovery journal head mismatch"
  return head

/-! ## The executor -/

/-- The core that the executor rebuilds from a receipt. -/
def rebuilt (receipt : Value) : Value :=
  .hash [("schema", .str coreSchema),
    ("receipt", .hash (core.map fun name => (name, receipt.get name)))]

def completionRecord (vmid txid : String) (context : Option Value) (stage row : Value) :
    Except String Value := do
  dieIf (!(row.isHash && (row.get "receipt").isHash)) "VM destroy completion receipt is malformed\n"
  let receipt := row.get "receipt"
  dieIf (expectedStage stage ≠ some (row.get "stage").text || (receipt.get "txid").text ≠ txid ||
    (receipt.get "vmid").text ≠ vmid || (receipt.get "schema").text ≠ "1" ||
    !(receipt.get "evidence").isHash) "VM destroy completion history stage/identity mismatch\n"
  let current := rebuilt receipt
  let text ← current.canonical
  let first ← (context.getD current).canonical
  dieIf (text ≠ first) "VM destroy completion immutable context changed\n"
  return context.getD current

def completionRecords (vmid txid : String) (context : Option Value) (stage : Value) :
    List Value → Except String (Option Value × Value)
  | [] => .ok (context, stage)
  | row :: rest => do
    let context ← completionRecord vmid txid context stage row
    completionRecords vmid txid (some context) (row.get "stage") rest

/-- `_completion_context` -/
def completionContext (history : Value) (vmid txid : String) : Except String Value := do
  dieIf (!history.isHash || (history.get "durable").text ≠ "1" ||
    (history.get "stage").text ≠ "FINALIZING" || (history.get "request_id").text ≠ txid ||
    !isSha256 (history.get "last_sha256").text || !(history.get "records").isArray ||
    (items (history.get "records")).length < 4 || (items (history.get "records")).length ≥ 32)
    "VM destroy completion needs exact durable FINALIZING history\n"
  let (context, stage) ← completionRecords vmid txid none .undef (items (history.get "records"))
  let context := context.getD .undef
  let digest ← perlDigest context
  dieIf (stage.text ≠ "FINALIZING" || (history.get "context_sha256").text ≠ digest)
    "VM destroy completion context digest mismatch\n"
  context.copy

end SharedLvmThin.FinalizingReaders
