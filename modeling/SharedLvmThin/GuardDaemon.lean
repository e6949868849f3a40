import SharedLvmThin.GuardEngine
import SharedLvmThin.PerlData

/-! The ThinGuard daemon. It answers one request line per connection and keeps every answer under
its request ID; the engine is asked at most for what has no answer yet. -/

namespace SharedLvmThin.GuardDaemon
open Perl Guard

/-! ## The protocol -/

inductive Op
  | status
  | prepare
  | release
deriving DecidableEq

def Op.text : Op → String
  | .status => "STATUS"
  | .prepare => "PREPARE"
  | .release => "RELEASE"

/-- `%fields` -/
def Op.fields : Op → List String
  | .status => ["version", "op", "request_id"]
  | .prepare =>
    ["version", "op", "request_id", "storage_id", "pool_uuid", "owner_epoch", "mapper_uuid"]
  | .release => ["version", "op", "request_id", "pool_uuid", "owner_epoch"]

def ops : List Op := [.status, .prepare, .release]

structure Request where
  op : Op
  requestId : String
  engine : EngineRequest

structure Response where
  ok : Bool
  requestId : String
  state : String
  action : String
  message : String
deriving DecidableEq

def isRequestId (s : String) : Bool := exactly 32 isLowerHex (body s)

def isStorageName (c : Char) : Bool := isWord c || c ∈ ['.', '-']

def isUuidChar (c : Char) : Bool := c.isAlphanum || c = '-'

/-- `/^LVM-[A-Za-z0-9]+-tpool$/` -/
def isMapperUuid (s : String) : Bool :=
  let text := (body s).toList
  let inner := (text.drop 4).take (text.length - 10)
  text.take 4 = "LVM-".toList && text.drop (text.length - 6) = "-tpool".toList &&
    10 < text.length && inner.all Char.isAlphanum

def maxLine : Nat := 16384

def maxReplay : Nat := 4096

def maxMessage : Nat := 2048

/-- The fields of each operation, as the engine reads them. -/
def engineRequest (request : Value) : EngineRequest :=
  let field (name : String) : Option String :=
    if request.has name then some (request.get name).text else none
  ⟨field "storage_id", field "pool_uuid", field "owner_epoch", field "mapper_uuid"⟩

def checkFields (op : Op) (request : Value) : Except String Unit := do
  forEach (request.fields.map Prod.fst) fun name =>
    dieIf (name ∉ op.fields) ("unexpected guardian request field '" ++ name ++ "'")
  forEach op.fields fun name =>
    dieIf (!request.has name) ("missing guardian request field '" ++ name ++ "'")
  dieIf (!isRequestId (request.get "request_id").text) "malformed guardian request ID"
  if op = .prepare then do
    dieIf (!plus isStorageName (body (request.get "storage_id").text))
      "malformed guardian storage ID"
    dieIf (!plus isUuidChar (body (request.get "pool_uuid").text)) "malformed guardian pool UUID"
    dieIf (!isRequestId (request.get "owner_epoch").text) "malformed guardian owner epoch"
    dieIf (!isMapperUuid (request.get "mapper_uuid").text) "malformed guardian mapper UUID"
  else if op = .release then do
    dieIf (!plus isUuidChar (body (request.get "pool_uuid").text)) "malformed guardian pool UUID"
    dieIf (!isRequestId (request.get "owner_epoch").text) "malformed guardian owner epoch"
  else return ()

/-- `/[\r\n]./s` -/
def breaksEarly (line : List Char) : Bool := line.dropLast.any fun c => c = '\r' || c = '\n'

section
variable (decodeJson : String → Option Value)

def decodeGuardRequest (line : String) : Except String Request := do
  dieIf (line.length > maxLine) "guardian request exceeds 16384 bytes"
  dieIf (line.toList.contains '\x00') "guardian request contains a NUL byte"
  dieIf (breaksEarly line.toList || line.toList.getLast? ≠ some '\n')
    "guardian request must contain exactly one JSON line"
  match decodeJson (String.ofList line.toList.dropLast) with
  | none => .error "guardian request is not valid JSON"
  | some request => do
    dieIf (!request.isHash) "guardian request is not valid JSON"
    dieIf (body (request.get "version").text ≠ "1") "unsupported guardian protocol version"
    match ops.find? fun op => op.text = (request.get "op").text with
    | none => .error "unsupported guardian operation"
    | some op =>
      checkFields op request
      return ⟨op, (request.get "request_id").text, engineRequest request⟩

end

def isControl (c : Char) : Bool := c.toNat < 32 || c.toNat = 127

def isName (s : String) : Bool := plus (fun c => c.isUpper || c = '_') (body s)

def encodeGuardResponse (r : Response) : Except String String := do
  dieIf (!isRequestId r.requestId) "invalid guardian response request ID"
  dieIf (!isName r.state) "invalid guardian response field 'state'"
  dieIf (!isName r.action) "invalid guardian response field 'action'"
  dieIf (r.message.toList.any isControl || r.message.length > maxMessage)
    "invalid guardian response message"
  let text ← Value.canonical (.hash [("version", .num "1"), ("ok", .num (if r.ok then "1" else "0")),
    ("request_id", .str r.requestId), ("state", .str r.state), ("action", .str r.action),
    ("message", .str r.message)])
  return text ++ "\n"

/-- The text that a response is sent as. -/
def Response.encoded (r : Response) : Option String := (encodeGuardResponse r).toOption

/-! ## The daemon -/

def modeText : GuardMode → String
  | .idle => "IDLE"
  | .armedPending => "ARMED_PENDING"
  | .protectedRuntime => "PROTECTED"
  | .fencing => "FENCING"

def actionText : ReplyAction → String
  | .none => "NONE"
  | .ackPrepared => "ACK_PREPARED"
  | .refreshWatchdog => "REFRESH_WATCHDOG"
  | .stopWatchdogRefresh => "STOP_WATCHDOG_REFRESH"
  | .cleanDisarm => "CLEAN_DISARM"

/-- `'0' x 32` -/
def noRequestId : String := "00000000000000000000000000000000"

/-- `s/[\r\n]+/ /g` -/
def squash : List Char → List Char
  | [] => []
  | [c] => if c = '\r' || c = '\n' then [' '] else [c]
  | c :: d :: rest =>
    if c = '\r' || c = '\n' then
      if d = '\r' || d = '\n' then squash (d :: rest) else ' ' :: squash (d :: rest)
    else c :: squash (d :: rest)

/-- The text of an error ends in a line feed. -/
def refusalMessage (error : String) : String :=
  String.ofList ((squash (error ++ "\n").toList).take maxMessage)

structure Daemon (Time : Type) where
  engine : Engine Time
  replay : List (String × Response)
  running : Bool

/-- What one connection meets: the bytes read, the clock, the inventory, the watchdog socket and
whether the first and the last write of a response succeed. -/
structure Connection (Time : Type) where
  input : Except String String
  now : Time
  provider : InventoryProvider
  io : SocketAnswers
  firstWrite : Bool
  lastWrite : Bool

/-- The decoded request ID, the response that was encoded for it, whether it was written, and
whether the engine was asked to prepare or release. -/
structure Served where
  requestId : Option String
  payload : Option String
  delivered : Bool
  invoked : Bool

/-- `respond` -/
def respond (response : Response) (written : Bool) : Except String String := do
  let payload ← encodeGuardResponse response
  dieIf (!written) "ThinGuard response write failed"
  return payload

section
variable {Time : Type}

/-- The branch behind a failed `eval`. -/
def Daemon.refuse (d : Daemon Time) (requestId error : String) : Daemon Time × Response :=
  let cached : Response := ⟨false, requestId, modeText d.engine.state.state, "REFUSED",
    refusalMessage error⟩
  let replay :=
    if requestId ≠ noRequestId && (d.replay.lookup requestId).isNone then
      (requestId, cached) :: d.replay
    else d.replay
  ({ d with replay := replay }, (replay.lookup requestId).getD cached)

def Daemon.serveRefusal (d : Daemon Time) (c : Connection Time) (id : Option String)
    (error : String) (invoked : Bool) : Daemon Time × Served :=
  let refused := d.refuse (id.getD noRequestId) error
  (refused.1, ⟨id, refused.2.encoded, (respond refused.2 c.lastWrite).toOption.isSome, invoked⟩)

/-- A first write that fails is followed by a last one, of what the journal holds. -/
def Daemon.serveCached (d : Daemon Time) (c : Connection Time) (id : String) (cached : Response)
    (invoked : Bool) : Daemon Time × Served :=
  match respond cached c.firstWrite with
  | .ok payload => (d, ⟨some id, some payload, true, invoked⟩)
  | .error error => d.serveRefusal c (some id) error invoked

variable [LinearOrder Time] [HAdd Time ℕ Time]

/-- The three operations. -/
def Daemon.dispatch (d : Daemon Time) (c : Connection Time) (request : Request) :
    Engine Time × Except String (String × String × String) :=
  match request.op with
  | .status => (d.engine, .ok (modeText d.engine.state.state, "NONE",
      d.engine.state.reason ++ "; watchdog=" ++ d.engine.watchdog.state.text))
  | .prepare =>
    let result := d.engine.prepare (some request.engine) (some c.now) c.provider c.io
    (result.1, result.2.map fun reply => (modeText reply.state, actionText reply.action,
      "watchdog armed before Thin activation"))
  | .release =>
    let result := d.engine.release (some request.engine) c.provider c.io
    (result.1, result.2.map fun reply => (modeText reply.state, actionText reply.action,
      "exact Thin epoch teardown positively verified"))

def Daemon.answer (d : Daemon Time) (c : Connection Time) (request : Request) :
    Daemon Time × Served :=
  match d.replay.lookup request.requestId with
  | some cached => d.serveCached c request.requestId cached false
  | none =>
    if d.replay.length ≥ maxReplay then
      d.serveRefusal c (some request.requestId) "ThinGuard replay journal is full" false
    else
      let invoked := decide (request.op ≠ .status)
      match d.dispatch c request with
      | (engine, .error error) =>
        { d with engine := engine }.serveRefusal c (some request.requestId) error invoked
      | (engine, .ok (state, action, message)) =>
        let cached : Response := ⟨true, request.requestId, state, action, message⟩
        { d with engine := engine, replay := (request.requestId, cached) :: d.replay }.serveCached
          c request.requestId cached invoked

variable (decodeJson : String → Option Value)

/-- One connection. -/
def Daemon.handle (d : Daemon Time) (c : Connection Time) : Daemon Time × Served :=
  match c.input >>= decodeGuardRequest decodeJson with
  | .error error => d.serveRefusal c none error false
  | .ok request => d.answer c request

inductive Event (Time : Type)
  | observe (keys : List String) (now : Time) (provider : InventoryProvider) (io : SocketAnswers)
  | connection (c : Connection Time)
  | stop

/-- A failed observation ends the loop. -/
def Daemon.observe (d : Daemon Time) (keys : List String) (now : Time)
    (provider : InventoryProvider) (io : SocketAnswers) : Daemon Time :=
  if d.engine.state.state = .idle then d
  else match d.engine.observe keys (some now) provider io with
    | (engine, .ok _) => { d with engine := engine }
    | (engine, .error _) =>
      let watchdog := (engine.watchdog.refresh (some ⟨false, .stopWatchdogRefresh⟩) io).1
      { d with engine := { engine with watchdog := watchdog }, running := false }

def Daemon.step (d : Daemon Time) (event : Event Time) : Daemon Time × List Served :=
  if d.running then
    match event with
    | .observe keys now provider io => (d.observe keys now provider io, [])
    | .connection c =>
      let result := d.handle decodeJson c
      (result.1, [result.2])
    | .stop => ({ d with running := false }, [])
  else (d, [])

/-- The main loop, with what it served, in order. -/
def Daemon.run (d : Daemon Time) : List (Event Time) → Daemon Time × List Served
  | [] => (d, [])
  | event :: events =>
    let result := d.step decodeJson event
    let final := result.1.run events
    (final.1, result.2 ++ final.2)

end

end SharedLvmThin.GuardDaemon
