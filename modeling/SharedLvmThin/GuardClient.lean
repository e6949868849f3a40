import SharedLvmThin.GuardDaemon

/-! The ThinGuard client. A request is one JSON line; where the connection fails it is made once
more, with the same line. A response counts only if it is one line with exactly its six fields, for
the ID of the request, a success, and with an action that the caller expects. -/

namespace SharedLvmThin.GuardClient
open Perl GuardDaemon

/-! ## The client -/

structure Client where
  socketFactory : Bool
  allowRealSocket : Bool
  socketPath : String
  requestTimeout : String

def canonicalPath : String := "/run/pve-sharedlvmthin/thin-guard.sock"

/-- `new` -/
def newClient (socketFactory : Bool) (allowRealSocket socketPath requestTimeout : Option String) :
    Client :=
  ⟨socketFactory, truthy allowRealSocket, socketPath.getD canonicalPath, requestTimeout.getD "35"⟩

/-- A call on the socket fails, is cut off by the alarm, or returns. -/
inductive Answer (α : Type)
  | failed
  | alarm
  | returned (value : α)

/-- What one attempt meets: a socket, an undefined one or an error; how many bytes are written; and
what the reads return. Where they end, the peer stays silent until the alarm. -/
structure Wire where
  socket : Except String Bool
  written : Answer Nat
  reads : List (Answer String)

/-- `_connect` -/
def Client.connect (client : Client) (wire : Wire) : Except String Bool :=
  if client.socketFactory then wire.socket
  else if !client.allowRealSocket then .error "real ThinGuard socket access is disabled\n"
  else if client.socketPath ≠ canonicalPath then
    .error "refusing non-canonical ThinGuard socket path\n"
  else match wire.socket with
    | .ok true => .ok true
    | .ok false => .error "cannot connect to ThinGuard daemon: \n"
    | .error errno => .error ("cannot connect to ThinGuard daemon: " ++ errno ++ "\n")

def timedOut {α : Type} : Except String α := .error "ThinGuard request timeout\n"

/-- The loop of reads. -/
def readResponse (response : String) (reads : List (Answer String)) : Except String String :=
  if response.length > maxLine || response.toList.contains '\n' then .ok response
  else match reads with
    | [] | .alarm :: _ => timedOut
    | .failed :: _ => .error "ThinGuard response read failed\n"
    | .returned chunk :: reads =>
      if chunk = "" then .error "ThinGuard response read failed\n"
      else readResponse (response ++ chunk) reads

/-- The `eval` of one attempt. -/
def Client.attempt (client : Client) (payload : String) (wire : Wire) : Except String String := do
  let socket ← client.connect wire
  dieIf (!socket) "ThinGuard socket factory returned no socket\n"
  dieIf (!isDigits client.requestTimeout || (numify client.requestTimeout).lt 1 ||
    (numify client.requestTimeout).gt 1310) "invalid ThinGuard request timeout\n"
  match wire.written with
  | .alarm => timedOut
  | .failed => .error "ThinGuard request write failed\n"
  | .returned count =>
    dieIf (count ≠ payload.length) "ThinGuard request write failed\n"
    readResponse "" wire.reads

/-- Only the real socket is tried again. -/
def Client.exchange (client : Client) (payload : String) (first second : Wire) :
    Except String String :=
  match client.attempt payload first with
  | .ok response => .ok response
  | .error error => if client.allowRealSocket then client.attempt payload second else .error error

/-- `{version => 1, %$request}` -/
def withVersion (request : Value) : Value :=
  .hash ((if request.has "version" then [] else [("version", .num "1")]) ++ request.fields)

def payloadOf (request : Value) : Except String String := do
  let text ← Value.canonical (withVersion request)
  return text ++ "\n"

def responseFields : List String := ["version", "ok", "request_id", "state", "action", "message"]

/-- `/\n\z/` and no earlier line feed -/
def isOneLine (response : String) : Bool :=
  response.toList.getLast? = some '\n' && !response.toList.dropLast.contains '\n'

local instance actions_lawful : LawfulBEq (Option String) := inferInstance

def checkResponse (request decoded : Value) (expected : List (Option String)) :
    Except String Unit := do
  dieIf ((decoded.fields.map Prod.fst).any (· ∉ responseFields))
    "ThinGuard response contains unexpected fields\n"
  dieIf (responseFields.any fun name => !decoded.has name) "ThinGuard response is incomplete\n"
  dieIf ((decoded.get "request_id").text ≠ (request.get "request_id").text)
    "ThinGuard response request ID mismatch\n"
  dieIf (!(decoded.get "ok").truthy)
    ("ThinGuard daemon refused request: " ++ (decoded.get "message").text ++ "\n")
  dieIf (some (decoded.get "action").text ∉ expected)
    ("ThinGuard daemon returned unexpected action '" ++ (decoded.get "action").text ++ "'\n")

section
variable (decodeJson : String → Option Value)

def Client.request (client : Client) (request : Value) (expected : List (Option String))
    (first second : Wire) : Except String Value := do
  dieIf (!request.isHash) "ThinGuard client request must be a hash\n"
  dieIf (expected = [] || expected.any fun action => !isName (action.getD ""))
    "ThinGuard expected action is malformed\n"
  let payload ← payloadOf request
  dieIf (payload.length > maxLine) "ThinGuard client request exceeds protocol limit\n"
  let response ← client.exchange payload first second
  dieIf (response.length > maxLine || !isOneLine response)
    "ThinGuard response contains multiple lines or exceeds protocol limit\n"
  match decodeJson response with
  | none => .error "ThinGuard response is invalid JSON\n"
  | some decoded => do
    dieIf (!decoded.isHash) "ThinGuard response is invalid JSON\n"
    checkResponse request decoded expected
    return decoded

/-! ## The plugin's calls -/

/-- Before a thin pool is activated, and after its owner was released. -/
inductive GuardCall
  | prepare (storageId poolUuid ownerEpoch mapperUuid : String)
  | release (poolUuid ownerEpoch : String)

def GuardCall.op : GuardCall → Op
  | .prepare .. => .prepare
  | .release .. => .release

def GuardCall.fields : GuardCall → List (String × String)
  | .prepare storageId poolUuid ownerEpoch mapperUuid =>
    [("storage_id", storageId), ("pool_uuid", poolUuid), ("owner_epoch", ownerEpoch),
      ("mapper_uuid", mapperUuid)]
  | .release poolUuid ownerEpoch => [("pool_uuid", poolUuid), ("owner_epoch", ownerEpoch)]

/-- The hash that the plugin hands to its client. -/
def GuardCall.request (call : GuardCall) (requestId : String) : Value :=
  .hash ([("version", .num "1"), ("op", .str call.op.text), ("request_id", .str requestId)] ++
    call.fields.map fun field => (field.1, .str field.2))

def GuardCall.timeout : GuardCall → String
  | .prepare .. => "1310"
  | .release .. => "35"

def GuardCall.expected : GuardCall → List (Option String)
  | .prepare .. => [some "ACK_PREPARED"]
  | .release .. => [some "CLEAN_DISARM", some "REFRESH_WATCHDOG"]

end

end SharedLvmThin.GuardClient
