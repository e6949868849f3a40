import SharedLvmThin.GuardClient
import SharedLvmThin.GuardDaemonOrigins
import SharedLvmThin.GuardEngineRuns
import SharedLvmThin.FinalizingSizes

/-! An acknowledged call of the plugin. Whatever the socket does to the first attempt, and whatever
else the daemon serves, an accepted response stands for exactly one call of the engine under the
request's ID, and the guard holds what that call asked for. -/

namespace SharedLvmThin.GuardClient
open Perl Guard GuardDaemon KeyedLists

/-! ## What the client accepts -/

variable {decodeJson : String → Option Value}

/-- An accepted response was read as one line from one of the two connections. -/
structure Accepted (decodeJson : String → Option Value) (request v : Value)
    (expected : List (Option String)) (wires : List Wire) (response : String) : Prop where
  read : ∃ wire ∈ wires, readResponse "" wire.reads = .ok response
  line : isOneLine response = true
  decoded : decodeJson response = some v
  requestId : (v.get "request_id").text = (request.get "request_id").text
  ok : (v.get "ok").truthy = true
  action : some (v.get "action").text ∈ expected

/-- Whatever was printed from named fields is read back with these fields, the line feed or not. -/
def ReadsBack (decodeJson : String → Option Value) : Prop :=
  ∀ (fields : List (String × Value)) (text : String) (w : Value),
    (fields.map Prod.fst).Nodup → (∀ field ∈ fields, field.2.Plain) →
    Value.canonical (.hash fields) = .ok text →
    (decodeJson text = some w ∨ decodeJson (text ++ "\n") = some w) →
    ∀ name, w.has name = (Value.hash fields).has name ∧ w.get name = (Value.hash fields).get name

variable (hjson : ReadsBack decodeJson)
include hjson

omit hjson

/-! ## What the guard holds -/

variable {Time : Type} [LinearOrder Time] [HAdd Time ℕ Time]

/-- A prepared pool is registered under an armed watchdog; a released one is gone, and with the last
pool the watchdog is disarmed. -/
def GuardCall.Held (call : GuardCall) (now : Time) (g g' : Engine Time) : Prop :=
  match call with
  | .prepare _ poolUuid ownerEpoch mapperUuid =>
    g'.watchdog.state = .armed ∧ g'.state.epochs.lookup poolUuid =
      some ⟨ownerEpoch, mapperUuid, .pendingAttach, now + g.state.pendingTimeout⟩
  | .release poolUuid ownerEpoch =>
    (∃ e, g.state.epochs.lookup poolUuid = some e ∧ e.ownerEpoch = ownerEpoch) ∧
      g'.state.epochs = g.state.epochs.erase poolUuid ∧
      (g'.state.epochs.keys = [] → g'.watchdog.state = .disarmed)

def GuardCall.engineRequest : GuardCall → EngineRequest
  | .prepare storageId poolUuid ownerEpoch mapperUuid =>
    ⟨some storageId, some poolUuid, some ownerEpoch, some mapperUuid⟩
  | .release poolUuid ownerEpoch => ⟨none, some poolUuid, some ownerEpoch, none⟩

variable {g g' : Engine Time} {now : Time} {provider : InventoryProvider} {io : SocketAnswers}
  {reply : Reply}

variable {d : Daemon Time} {events : List (Event Time)} {call : GuardCall} {id : String}
  {first second : Wire} {leaseguard : Option String} {v : Value}

def sampleId : String := "0123456789abcdef0123456789abcdef"

end SharedLvmThin.GuardClient
