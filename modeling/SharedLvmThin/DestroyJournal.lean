import SharedLvmThin.KeyedLists
import SharedLvmThin.Sha256
import SharedLvmThin.DestroyExecutor

/-! The destroy journal. A Perl client asks a helper process to append one record at a time and
keeps the head it believes in; the Python helper reads the whole directory of the request before it
creates the next file. Helpers are serialised by the journal locks and may die at any point. -/

namespace SharedLvmThin.DestroyJournal
open Perl KeyedLists VMDestroy

/-! ## JSON and digests -/

/-- `\uXXXX` -/
def unicodeEscape (unit : Nat) : List Char :=
  ['\\', 'u', Nat.digitChar (unit / 4096 % 16), Nat.digitChar (unit / 256 % 16),
    Nat.digitChar (unit / 16 % 16), Nat.digitChar (unit % 16)]

/-- `JSON::PP->ascii`: what is not ASCII is written as UTF-16 escapes. -/
def asciiChar (c : Char) : List Char :=
  if c.toNat < 128 then [c]
  else if c.toNat < 65536 then unicodeEscape c.toNat
  else unicodeEscape (0xd800 + (c.toNat - 65536) / 1024) ++
    unicodeEscape (0xdc00 + (c.toNat - 65536) % 1024)

/-- `ensure_ascii` escapes the delete character as well. -/
def ensureAsciiChar (c : Char) : List Char :=
  if c.toNat = 127 then unicodeEscape 127 else asciiChar c

def mapText (f : Char → List Char) (text : String) : String := String.ofList (text.toList.flatMap f)

/-- `_json` of the client. -/
def perlJson (v : Value) : Except String String := do
  let text ← v.canonical
  return mapText asciiChar text

/-- `canonical` of the helper. -/
def canonical (v : Value) : Except String String := do
  let text ← v.canonical
  return mapText ensureAsciiChar text

/-- `sha256_hex(_json($v))` -/
def perlDigest (v : Value) : Except String String := do
  let text ← perlJson v
  Sha256.sha256Hex text

def digest (v : Value) : Except String String := do
  let text ← canonical v
  Sha256.sha256Hex text

def limit : Nat := 1024 * 1024

def maxRecords : Nat := 32

def isRequestId (s : String) : Bool := exactly 32 isLowerHex s

def isSha256 (s : String) : Bool := exactly 64 isLowerHex s

def optionalText : Option String → Value
  | none => .undef
  | some s => .str s

/-! ## Records and messages -/

def journalSchema : String := "sharedlvmthin-vm-destroy-journal/v1"

def appendSchema : String := "sharedlvmthin-vm-destroy-append/v1"

def resultSchema : String := "sharedlvmthin-vm-destroy-append-result/v1"

def coreSchema : String := "sharedlvmthin-vm-destroy-executor-core/v1"

structure Row where
  schema : String
  authority : String
  sequence : Nat
  requestId : String
  stage : Stage
  previousSha256 : Option String
  contextSha256 : String
  context : Value
  evidence : Value

def Row.json (row : Row) : Value :=
  .hash [("schema", .str row.schema), ("sequence", .num (toString row.sequence)),
    ("request_id", .str row.requestId), ("stage", .str row.stage.text),
    ("previous_sha256", optionalText row.previousSha256), ("context_sha256", .str row.contextSha256),
    ("context", row.context), ("evidence", row.evidence), ("authority", .str row.authority)]

/-- The request of an append. -/
structure Payload where
  schema : String
  authority : String
  requestId : String
  stage : Stage
  expectedPrevious : Option String
  context : Value
  evidence : Value

def Payload.json (p : Payload) : Value :=
  .hash [("schema", .str p.schema), ("authority", .str p.authority), ("request_id", .str p.requestId),
    ("stage", .str p.stage.text), ("expected_previous", optionalText p.expectedPrevious),
    ("context", p.context), ("evidence", p.evidence)]

structure Ack where
  schema : String
  authority : String
  requestId : String
  stage : Stage
  previousSha256 : Option String
  requestSha256 : String
  lastSha256 : String

def Ack.json (ack : Ack) : Value :=
  .hash [("schema", .str ack.schema), ("authority", .str ack.authority),
    ("request_id", .str ack.requestId), ("stage", .str ack.stage.text),
    ("previous_sha256", optionalText ack.previousSha256), ("last_sha256", .str ack.lastSha256),
    ("request_sha256", .str ack.requestSha256)]

/-- The answer to `_observe-durable`; an empty journal has no stage. -/
structure Observation where
  schema : String
  authority : String
  records : List Row
  stage : Option Stage
  lastSha256 : Option String
  durable : Bool

def Observation.json (o : Observation) : Value :=
  .hash [("schema", .str o.schema), ("authority", .str o.authority),
    ("records", .array (o.records.map Row.json)),
    ("stage", .str ((o.stage.map Stage.text).getD "EMPTY")),
    ("last_sha256", optionalText o.lastSha256), ("durable", .bool o.durable)]

/-! ## The helper: reading -/

def stages : List Stage := [.prepared, .dispatched, .storageAbsent, .finalizing, .complete]

def nextStage (current : Option Stage) (requested : Stage) : Except String Unit := do
  dieIf (current = some .complete || current = some .partialOrUnknown)
    "terminal journal cannot advance"
  match current with
  | none => dieIf (requested ≠ .prepared) "first stage must be PREPARED"
  | some current =>
    dieIf (!(requested = .partialOrUnknown || (current = .finalizing && requested = .finalizing) ||
      stages[stages.idxOf current + 1]? = some requested)) "stage skip, replay or regression refused"

/-- Six decimal digits. -/
def sixDigits (n : Nat) : String :=
  String.ofList ([100000, 10000, 1000, 100, 10, 1].map fun place => Nat.digitChar (n / place % 10))

def filename (sequence : Nat) (stage : Stage) : String :=
  sixDigits sequence ++ ("-" ++ stage.text ++ ".json")

/-- A file holds the first `written` characters of its record's text. The call that created it is
not part of the file. -/
structure File where
  name : String
  row : Row
  written : Nat
  call : Nat

abbrev Directory := List File

/-- `_read`: the text is accepted if it is the canonical text of what it says. A text that breaks
off before its newline is the canonical text of nothing. -/
def readFile (file : File) : Except String Row := do
  let text ← canonical file.row.json
  let raw := (text ++ "\n").toList.take file.written
  dieIf (!(0 < raw.length && raw.length ≤ limit)) "unsafe journal record inode"
  dieIf (raw ≠ (text ++ "\n").toList) "record is not canonical"
  return file.row

def headDigest : Option Row → Except String (Option String)
  | none => .ok none
  | some row => do
    let hash ← digest row.json
    return some hash

def sameRequest (previous : Option Row) (requestId : String) (context : Value) :
    Except String Unit :=
  match previous with
  | none => .ok ()
  | some last => do
    let text ← canonical context
    let lastText ← canonical last.context
    dieIf (requestId ≠ last.requestId || text ≠ lastText) "request context changed"

def checkRow (previous : Option Row) (index : Nat) (name : String) (row : Row) :
    Except String Unit := do
  dieIf (row.schema ≠ journalSchema || row.authority ≠ "NONE") "record schema/authority invalid"
  dieIf (row.sequence ≠ index) "record sequence invalid"
  dieIf (!isRequestId row.requestId) "request ID invalid"
  dieIf (!(row.context.isHash && row.evidence.isHash)) "context/evidence must be objects"
  let contextDigest ← digest row.context
  dieIf (row.contextSha256 ≠ contextDigest) "context digest invalid"
  nextStage (previous.map Row.stage) row.stage
  dieIf (name ≠ filename index row.stage) "unexpected record filename"
  let link ← headDigest previous
  dieIf (row.previousSha256 ≠ link) "broken record hash chain"
  sameRequest previous row.requestId row.context

def readRecords (records : List Row) : List File → Except String (List Row)
  | [] => .ok records
  | file :: rest => do
    let row ← readFile file
    checkRow records.getLast? (records.length + 1) file.name row
    readRecords (records ++ [row]) rest

/-- `_records` -/
def readJournal (directory : Directory) : Except String (List Row) := do
  dieIf (directory.length > maxRecords) "unexpected journal contents"
  readRecords [] (sortBy File.name directory)

/-! ## The helper: appending -/

/-- Where a helper dies. A lock that is taken, or a directory that changed before the file is
created, also ends it without an effect. -/
inductive Fault
  | beforeEffect
  | afterRequestMkdir
  | afterRequestParentFsync
  | whileWriting (written : Nat)
  | afterFileFsync
  | afterDirectoryFsync

/-- `append` up to the creation of the file. -/
def plannedRow (directory : Directory) (p : Payload) : Except String Row := do
  dieIf (!isRequestId p.requestId) "request ID invalid"
  dieIf (!(p.context.isHash && p.evidence.isHash)) "invalid context/evidence"
  let records ← readJournal directory
  dieIf (!(records.length < maxRecords)) "journal record budget exhausted"
  let head ← headDigest records.getLast?
  dieIf (p.expectedPrevious ≠ head) "journal CAS mismatch"
  nextStage (records.getLast?.map Row.stage) p.stage
  sameRequest records.getLast? p.requestId p.context
  let contextDigest ← digest p.context
  let row : Row := {
    schema := journalSchema
    authority := "NONE"
    sequence := records.length + 1
    requestId := p.requestId
    stage := p.stage
    previousSha256 := p.expectedPrevious
    contextSha256 := contextDigest
    context := p.context
    evidence := p.evidence }
  let text ← canonical row.json
  dieIf (text.length + 1 > limit) "journal record too large"
  dieIf (filename row.sequence row.stage ∈ directory.map File.name) "File exists"
  return row

/-- What a helper leaves in the file it created. -/
def createdFile (call : Nat) (fault : Option Fault) (row : Row) : File where
  name := filename row.sequence row.stage
  row := row
  written := match fault with
    | some (.whileWriting written) => written
    | _ => ((canonical row.json).toOption.getD "").length + 1
  call := call

/-- `Journal.append` -/
def append (directory : Directory) (call : Nat) (fault : Option Fault) (p : Payload) :
    Directory × Except String String :=
  match plannedRow directory p with
  | .error message => (directory, .error message)
  | .ok row =>
    let file := createdFile call fault row
    (directory ++ [file], do
      dieIf fault.isSome "helper died"
      let readback ← readFile file
      digest readback.json)

def readAppendPayload (raw : String) (value : Payload) (requestId : String) :
    Except String Payload := do
  dieIf (!(0 < raw.length && raw.length ≤ limit)) "append input size invalid"
  let text ← canonical value.json
  dieIf (raw ≠ text ++ "\n") "append input is not canonical JSON"
  dieIf (value.schema ≠ appendSchema || value.authority ≠ "NONE") "append schema/authority invalid"
  dieIf (value.requestId ≠ requestId || !isRequestId requestId) "append request identity mismatch"
  dieIf (!value.expectedPrevious.all isSha256) "append CAS invalid"
  dieIf (!(value.context.isHash && value.evidence.isHash)) "append context/evidence invalid"
  dieIf (decide (value.stage = .prepared) ≠ value.expectedPrevious.isNone)
    "append initial CAS/stage mismatch"
  return value

/-- The request directories under the journal's base. -/
abbrev Base := String → Option Directory

def ackOf (p : Payload) (head : String) : Except String Ack := do
  let requestDigest ← digest p.json
  return ⟨resultSchema, "NONE", p.requestId, p.stage, p.expectedPrevious, requestDigest, head⟩

/-- PREPARED makes the request directory, and nothing else does. -/
def openRequest (base : Base) (p : Payload) : Except String Directory :=
  if p.stage = .prepared then
    match base p.requestId with
    | none => .ok []
    | some _ => .error "File exists"
  else
    match base p.requestId with
    | none => .error "No such file or directory"
    | some directory => .ok directory

def appendRequest (base : Base) (call : Nat) (fault : Option Fault) (p : Payload) :
    Base × Except String Ack :=
  match openRequest base p with
  | .error message => (base, .error message)
  | .ok directory =>
    match fault with
    | some .beforeEffect => (base, .error "helper died")
    | some .afterRequestMkdir | some .afterRequestParentFsync =>
      (Function.update base p.requestId (some directory), .error "helper died")
    | _ =>
      let result := append directory call fault p
      (Function.update base p.requestId (some result.1), do
        let head ← result.2
        ackOf p head)

/-- `_append` of the helper. -/
def mainAppend (base : Base) (call : Nat) (fault : Option Fault) (input : String) (p : Payload) :
    Base × Except String Ack :=
  let checked : Except String Payload := do
    let payload ← readAppendPayload input p p.requestId
    let text ← canonical payload.json
    readAppendPayload (text ++ "\n") payload payload.requestId
  match checked with
  | .error message => (base, .error message)
  | .ok payload => appendRequest base call fault payload

/-- `_observe-durable` of the helper. -/
def observe (base : Base) (requestId : String) : Except String Observation := do
  dieIf (!isRequestId requestId) "request ID invalid"
  match base requestId with
  | none => .error "No such file or directory"
  | some directory =>
    let records ← readJournal directory
    let head ← headDigest records.getLast?
    dieIf (records.any fun row => row.requestId ≠ requestId) "request directory identity mismatch"
    return ⟨journalSchema, "NONE", records, records.getLast?.map Row.stage, head, true⟩

/-! ## The client -/

def need (good : Bool) (message : String) : Except String Unit :=
  dieIf (!good) ("VM destroy journal bridge refused: " ++ message ++ "\n")

def core : List String := ["schema", "txid", "vmid", "config", "runtime", "plan"]

def extra : List String :=
  ["evidence", "current_effect", "next_effects", "error", "resume", "resumed", "recovery_required"]

def advance (previous : Option Stage) (stage : Stage) : Bool :=
  match previous with
  | none => stage = .prepared
  | some .complete => false
  | some .partialOrUnknown => false
  | some previous =>
    stage = .partialOrUnknown || (previous = .finalizing && stage = .finalizing) ||
      (match previous with
        | .prepared => stage = .dispatched
        | .dispatched => stage = .storageAbsent
        | .storageAbsent => stage = .finalizing
        | .finalizing => stage = .complete
        | _ => false)

/-- The call that a client waits for. -/
inductive Pending
  | appending (payload : Payload) (row : Row)
  | observing

structure Client where
  root : Bool
  requestId : String
  previous : Option String
  sequence : Nat
  stage : Option Stage
  context : Option Value
  poisoned : Bool
  waiting : Option (Nat × Pending)

/-- `_decode` of a text that the helper printed. -/
def decode (value : Value) (limit : Nat) : Except String Unit := do
  let raw ← canonical value
  need (raw.length + 1 ≤ limit) "invalid response bytes"
  let text ← perlJson value
  need (raw = text) "noncanonical response"

def selectFields (receipt : Value) (names : List String) : Value :=
  .hash ((names.filter receipt.has).map fun name => (name, receipt.get name))

def checkOwnContext (own : Option Value) (context : Value) : Except String Unit :=
  match own with
  | none => .ok ()
  | some own => do
    let ownText ← perlJson own
    let text ← perlJson context
    need (ownText = text) "immutable context changed"

/-- `append` up to the call of the helper. -/
def prepareAppend (c : Client) (stage : Stage) (receipt : Value) :
    Except String (Payload × Row × String) := do
  need c.root "root required"
  need (!c.poisoned) "prior uncertain append; no retry"
  need (c.sequence < maxRecords) "record budget exhausted"
  need (advance c.stage stage) "stage skip, replay or terminal state"
  need receipt.isHash "receipt missing"
  need (receipt.fields.all fun field => field.1 ∈ core ++ extra) "unknown receipt fields"
  forEach core fun name => need (receipt.has name) ("missing core " ++ name)
  need ((receipt.get "txid").text = c.requestId) "receipt request mismatch"
  need (receipt.get "evidence").isHash "stage evidence missing"
  let context : Value := .hash [("schema", .str coreSchema), ("receipt", selectFields receipt core)]
  checkOwnContext c.context context
  let evidence := selectFields receipt extra
  let payload : Payload :=
    ⟨appendSchema, "NONE", c.requestId, stage, c.previous, context, evidence⟩
  let input ← perlJson payload.json
  need (input.length + 1 ≤ limit) "oversized append"
  let contextDigest ← perlDigest context
  let row : Row := ⟨journalSchema, "NONE", c.sequence + 1, c.requestId, stage, c.previous,
    contextDigest, context, evidence⟩
  let text ← perlJson row.json
  need (text.length + 1 ≤ limit) "oversized journal record"
  return (payload, row, input ++ "\n")

/-- `append_cas` checks the caller's head first. -/
def checkCas (c : Client) : Option String → Except String Unit
  | none => .ok ()
  | some expected => do
    need (isSha256 expected) "explicit CAS head required"
    need (c.previous = some expected) "explicit CAS differs from observed journal head"

/-- `append` after the helper's acknowledgement. -/
def settleAppend (c : Client) (payload : Payload) (row : Row) (ack : Ack) :
    Except String Client := do
  decode ack.json limit
  let requestDigest ← perlDigest payload.json
  let rowDigest ← perlDigest row.json
  let expected : Ack :=
    ⟨resultSchema, "NONE", c.requestId, payload.stage, c.previous, requestDigest, rowDigest⟩
  let text ← perlJson ack.json
  let expectedText ← perlJson expected.json
  need (text = expectedText) "acknowledgement identity/digest mismatch"
  return { c with previous := some ack.lastSha256, sequence := c.sequence + 1, stage := some payload.stage
                  context := some payload.context, poisoned := false, waiting := none }

/-- The head that `_load_existing` follows. -/
structure Head where
  previous : Option String
  stage : Option Stage
  sequence : Nat

def fieldNames (v : Value) : String := ",".intercalate (sortBy id (v.fields.map Prod.fst))

def checkRecord (requestId : String) (context : Value) (head : Head) (row : Row) :
    Except String Head := do
  need (row.schema = journalSchema && row.authority = "NONE" && row.requestId = requestId)
    "record identity"
  need (row.sequence = head.sequence + 1 && advance head.stage row.stage) "record sequence/stage"
  need (row.previousSha256 = head.previous) "record chain"
  let text ← perlJson row.context
  let ownText ← perlJson context
  let ownDigest ← perlDigest context
  need (text = ownText && row.contextSha256 = ownDigest) "record context"
  need (fieldNames row.context = "receipt,schema" &&
    (row.context.get "schema").text = coreSchema && (row.context.get "receipt").isHash &&
    fieldNames (row.context.get "receipt") = ",".intercalate (sortBy id core) &&
    ((row.context.get "receipt").get "txid").text = requestId) "executor core"
  need (row.evidence.isHash && (row.evidence.get "evidence").isHash &&
    row.evidence.fields.all fun field => field.1 ∈ extra) "stage evidence"
  let hash ← perlDigest row.json
  return ⟨some hash, some row.stage, head.sequence + 1⟩

def checkRecords (requestId : String) (context : Value) (head : Head) :
    List Row → Except String Head
  | [] => .ok head
  | row :: rest => do
    let head ← checkRecord requestId context head row
    checkRecords requestId context head rest

/-- `_load_existing` up to the call of the helper. -/
def prepareLoad (c : Client) : Except String Unit := do
  need c.root "root required"
  need (!c.poisoned) "prior uncertain append; use a new recovery process"
  need (c.context.any Value.isHash) "recovery context missing"

/-- `_load_existing` after the helper's answer. -/
def settleLoad (c : Client) (o : Observation) : Except String Client := do
  decode o.json (32 * limit + 4096)
  need (o.schema = journalSchema && o.authority = "NONE" && o.durable) "not durable NONE journal"
  need (4 ≤ o.records.length && o.records.length ≤ maxRecords) "invalid recovery record count"
  let head ← checkRecords c.requestId (c.context.getD .undef) ⟨none, none, 0⟩ o.records
  need (o.stage = head.stage && o.lastSha256 = head.previous) "observed head mismatch"
  need (head.stage = some .finalizing)
    "only exact FINALIZING is recoverable; terminal/other states refused"
  return { c with previous := head.previous, sequence := head.sequence, stage := head.stage
                  waiting := none }

/-! ## Clients and helpers together -/

inductive Message
  | append (payload : Payload) (input : String)
  | observe (requestId : String)

inductive Reply
  | ack (ack : Ack)
  | observation (observation : Observation)

/-- Every call of a client has its number; its helper runs at most once. -/
structure System where
  base : Base
  clients : Nat → Client
  requests : Nat → Option Message
  replies : Nat → Option Reply
  nextCall : Nat

inductive Event
  | append (client : Nat) (stage : Stage) (receipt : Value) (cas : Option String)
  | load (client : Nat)
  | serve (call : Nat) (fault : Option Fault)
  | receive (client : Nat)
  | giveUp (client : Nat)

def System.setClient (s : System) (client : Nat) (c : Client) : System :=
  { s with clients := Function.update s.clients client c }

/-- The message leaves and the client waits. -/
def System.send (s : System) (client : Nat) (c : Client) (message : Message) (pending : Pending) :
    System :=
  { s with clients := Function.update s.clients client { c with waiting := some (s.nextCall, pending) }
           requests := Function.update s.requests s.nextCall (some message)
           nextCall := s.nextCall + 1 }

def System.answer (s : System) (call : Nat) (base : Base) (reply : Option Reply) : System :=
  { s with base := base
           requests := Function.update s.requests call none
           replies := Function.update s.replies call reply }

def System.callAppend (s : System) (client : Nat) (stage : Stage) (receipt : Value)
    (cas : Option String) : System :=
  let c := s.clients client
  let prepared : Except String (Payload × Row × String) := do
    checkCas c cas
    prepareAppend c stage receipt
  match c.waiting, prepared with
  | none, .ok (payload, row, input) =>
    -- poisoned before the helper is called
    s.send client { c with poisoned := true } (.append payload input) (.appending payload row)
  | _, _ => s

def System.callLoad (s : System) (client : Nat) : System :=
  let c := s.clients client
  match c.waiting, prepareLoad c with
  | none, .ok _ => s.send client c (.observe c.requestId) .observing
  | _, _ => s

def System.serve (s : System) (call : Nat) (fault : Option Fault) : System :=
  match s.requests call with
  | none => s
  | some (.append payload input) =>
    let result := mainAppend s.base call fault input payload
    s.answer call result.1 (result.2.toOption.map Reply.ack)
  | some (.observe requestId) =>
    s.answer call s.base ((observe s.base requestId).toOption.map Reply.observation)

/-- A client whose call failed keeps its head; a failed append leaves it poisoned. -/
def Client.fail (c : Client) : Client := { c with waiting := none }

def Client.settle (c : Client) : Pending → Reply → Except String Client
  | .appending payload row, .ack ack => settleAppend c payload row ack
  | .observing, .observation o => settleLoad c o
  | _, _ => .error "unexpected answer"

def System.receive (s : System) (client : Nat) : System :=
  let c := s.clients client
  match c.waiting with
  | none => s
  | some (call, pending) =>
    match s.replies call with
    | none => s
    | some reply =>
      match c.settle pending reply with
      | .ok c' => s.setClient client c'
      | .error _ => s.setClient client c.fail

def System.step (s : System) : Event → System
  | .append client stage receipt cas => s.callAppend client stage receipt cas
  | .load client => s.callLoad client
  | .serve call fault => s.serve call fault
  | .receive client => s.receive client
  -- the acknowledgement is lost, or the helper died before it
  | .giveUp client => s.setClient client (s.clients client).fail

def System.run (s : System) (events : List Event) : System := events.foldl System.step s

/-- What a client is made with: `new` has no context, `open_existing` expects one. -/
structure Identity where
  root : Bool
  requestId : String
  valid : isRequestId requestId = true
  context : Option Value

def newClient (i : Identity) : Client := ⟨i.root, i.requestId, none, 0, none, i.context, false, none⟩

def start (identities : Nat → Identity) : System :=
  ⟨fun _ => none, fun client => newClient (identities client), fun _ => none, fun _ => none, 0⟩

end SharedLvmThin.DestroyJournal
