import SharedLvmThin.KeyedLists
import SharedLvmThin.PerlData

/-!
# Evidence of thin-pool ownership

A pool records its owner in LVM tags. Activation rests on these tags, on what every peer
reports about its own kernel, and for a takeover on the state of the HA manager.
-/

namespace SharedLvmThin.Thin
open Perl KeyedLists

/-! ## Owner and import tags -/

def schemaTag : String := "pve-slt-owner-v1"
def ownerTag (node : String) : String := "pve-slt-owner-node-" ++ node
def epochTag (epoch : String) : String := "pve-slt-owner-epoch-" ++ epoch
def sidTag (storeid : String) : String := "pve-slt-sid-" ++ storeid

/-- What follows `start` in the text that an anchored pattern sees. -/
def after? (start s : String) : Option String :=
  ((body s).toList.dropPrefix? start.toList).map String.ofList

/-- `/^[A-Za-z0-9][A-Za-z0-9_.-]*$/` -/
def isNodeName (s : String) : Bool :=
  match s.toList with
  | c :: cs => c.isAlphanum && cs.all fun c => c.isAlphanum || c ∈ ['_', '.', '-']
  | [] => false

def isEpoch (s : String) : Bool := exactly 32 isLowerHex s

/-- `/^[1-9][0-9]*$/` -/
def isPositive (s : String) : Bool := plus Char.isDigit s && s.toList.head? ≠ some '0'

def tagValue? (start : String) (valid : String → Bool) (tag : String) : Option String :=
  (after? start tag).filter valid

def ownerOf? : String → Option String := tagValue? "pve-slt-owner-node-" isNodeName
def epochOf? : String → Option String := tagValue? "pve-slt-owner-epoch-" isEpoch

structure OwnerState where
  schema : Bool
  owner : Option String
  epoch : Option String
deriving DecidableEq

/-- `_thin_owner_state_from_tags` -/
def ownerStateFromTags (tags : List String) : Except String OwnerState := do
  forEach tags fun tag =>
    dieIf (tag ≠ schemaTag && (ownerOf? tag).isNone && (epochOf? tag).isNone &&
        (after? "pve-slt-owner-" tag).isSome)
      ("malformed shared thin-pool owner tag '" ++ tag ++ "'\n")
  let schema := tags.count schemaTag
  let owners := tags.filterMap ownerOf?
  let epochs := tags.filterMap epochOf?
  dieIf (schema > 1 || owners.length > 1 || epochs.length > 1)
    "ambiguous shared thin-pool ownership: duplicate schema or owner tags found\n"
  dieIf (owners.length ≠ epochs.length)
    "ambiguous shared thin-pool ownership: owner node and epoch must exist together\n"
  return ⟨schema ≠ 0, owners.head?, epochs.head?⟩

def importTag : String := "pve-slt-import-v1"

structure ImportState where
  active : Bool
  tx : Option String
  bytes : Option String

/-- `_thin_import_state_from_tags` -/
def importStateFromTags (tags : List String) : Except String ImportState := do
  let txOf? := tagValue? "pve-slt-import-tx-" isEpoch
  let bytesOf? := tagValue? "pve-slt-import-bytes-" isPositive
  forEach tags fun tag =>
    dieIf ((after? "pve-slt-import-" tag).isSome && tag ≠ importTag && (txOf? tag).isNone &&
        (bytesOf? tag).isNone)
      ("malformed Thin import preparation tag '" ++ tag ++ "'\n")
  let schema := tags.count importTag
  let tx := tags.filterMap txOf?
  let bytes := tags.filterMap bytesOf?
  dieIf (schema > 1 || tx.length > 1 || bytes.length > 1 ||
      ((schema ≠ 0 || tx ≠ [] || bytes ≠ []) &&
        (schema ≠ 1 || tx.length ≠ 1 || bytes.length ≠ 1)))
    "ambiguous Thin import preparation tags\n"
  return ⟨schema ≠ 0, tx.head?, bytes.head?⟩

def isSidTag (tag : String) : Bool :=
  (tagValue? "pve-slt-sid-" (plus fun c => c.isAlphanum || c ∈ ['_', '-']) tag).isSome

/-! ## Peers -/

structure Member where
  online : Bool
  ip : String

/-- The names a storage's node scope selects. -/
def selectedNodes (members : List (String × Member)) : Value → Except String (List String)
  | .hash fields => .ok ((fields.filter fun field => field.2.truthy).map Prod.fst)
  | .undef => .ok (members.map Prod.fst)
  | .str s => .ok (if s = "" then members.map Prod.fst else splitOn ',' s)
  | .num s => .ok (splitOn ',' s)
  | _ => .error "storage node scope is malformed\n"

def isAddress (s : String) : Bool :=
  plus (fun c => c.isDigit || ('A' ≤ c && c ≤ 'F') || ('a' ≤ c && c ≤ 'f') || c ∈ [':', '.'])
    (body s)

def checkPeer (members : List (String × Member)) (node : String) : Except String Unit := do
  dieIf (!isNodeName (body node)) "peer node name is malformed\n"
  match members.lookup node with
  | none => .error ("peer '" ++ node ++ "' is absent from cluster membership\n")
  | some member => do
    dieIf (!member.online) ("peer '" ++ node ++ "' is not positively online\n")
    dieIf (!isAddress member.ip) ("peer '" ++ node ++ "' has no valid cluster address\n")

/-- `select_peer_nodes`; `members` is absent when the cluster gives no membership. -/
def selectPeerNodes (members : Option (List (String × Member))) (localNode : String)
    (nodes : Value) : Except String (List String) :=
  match members with
  | none => .error "cluster membership is unavailable\n"
  | some members => do
    dieIf (!isNodeName localNode) "local node is malformed\n"
    let selected ← selectedNodes members nodes
    let peers := sortBy id (selected.filter (· ≠ localNode)).dedup
    dieIf peers.isEmpty "no peer nodes are configured\n"
    forEach peers (checkPeer members)
    return peers

/-- The scope without a fenced former owner, as `_thin_configured_peer_nodes` builds it. -/
def withoutFenced (members : List (String × Member)) (fenced : String) : Value → Value
  | .hash fields => .hash (fields.filter fun field => field.1 ≠ fenced)
  | .str s => .str (",".intercalate ((splitOn ',' s).filter (· ≠ fenced)))
  | .num s => .str (",".intercalate ((splitOn ',' s).filter (· ≠ fenced)))
  | .undef => .hash (members.map fun m => (m.1, .num (if m.1 ≠ fenced then "1" else "0")))
  | v => v

/-- `_thin_configured_peer_nodes` -/
def configuredPeerNodes (members : Option (List (String × Member))) (localNode : String)
    (nodes : Value) : Option String → Except String (List String)
  | none => selectPeerNodes members localNode nodes
  | some fenced => do
    dieIf (!isNodeName (body fenced)) "fenced Thin owner node is malformed\n"
    selectPeerNodes members localNode (withoutFenced (members.getD []) fenced nodes)

/-- One answer of a peer: its name and whether its kernel holds the exact mapper. -/
structure Evidence where
  node : String
  present : Bool

inductive Decision
  | remoteConflict (node : String)
  | allPeersAbsent
deriving DecidableEq

/-- `evaluate_peer_mapper_evidence` -/
def evaluatePeerMapperEvidence (evidence : List Evidence) : Except String Decision :=
  if evidence.isEmpty then .error "peer evidence is unavailable\n"
  else go [] evidence
where
  go (seen : List String) : List Evidence → Except String Decision
    | [] => .ok .allPeersAbsent
    | item :: rest => do
      dieIf (!isNodeName item.node || item.node ∈ seen)
        "peer evidence node is malformed or duplicated\n"
      if item.present then return .remoteConflict item.node
      else go (item.node :: seen) rest

/-! ## Takeover from a fenced owner -/

structure Manager where
  timestamp : Option Nat
  serviceNode : String
  serviceState : String
  nodeStatus : String → String

/-- What a takeover reads of the HA configuration of the VM and of the manager status. -/
structure HaStatus where
  resource : Option (Option String)
  manager : Option Manager
  time : Nat

/-- `_thin_pve_ha_takeover_evidence` -/
def haTakeoverEvidence (ha : HaStatus) (vmid owner localNode : String) : Except String Unit := do
  let sid := "vm:" ++ vmid
  dieIf (!isPositive vmid) "PVE HA Thin takeover received an invalid pool name\n"
  match ha.resource with
  | none => .error ("PVE HA Thin takeover refused: '" ++ sid ++ "' is not HA managed\n")
  | some state => do
    let requested := state.getD "started"
    dieIf (requested ≠ "started" && requested ≠ "enabled")
      ("PVE HA Thin takeover refused: '" ++ sid ++ "' requested state is '" ++ requested ++ "'\n")
    match ha.manager with
    | none => .error "PVE HA Thin takeover refused: manager status is unavailable\n"
    | some manager => do
      dieIf (manager.timestamp.all fun t => ha.time > t + 30 || t > ha.time + 5)
        "PVE HA Thin takeover refused: manager status is stale or from the future\n"
      dieIf (manager.serviceNode ≠ localNode ||
          body manager.serviceState ∉ ["started", "starting", "migrate"])
        ("PVE HA Thin takeover refused: manager did not assign '" ++ sid ++ "' to '" ++ localNode ++
          "' for start (node='" ++ manager.serviceNode ++ "', state='" ++ manager.serviceState ++
            "')\n")
      dieIf (manager.nodeStatus localNode ≠ "online")
        ("PVE HA Thin takeover refused: target node '" ++ localNode ++ "' is not online\n")
      dieIf (body (manager.nodeStatus owner) ∉ ["unknown", "fence"])
        ("PVE HA Thin takeover refused: former owner '" ++ owner ++
          "' is not in the fenced/offline HA state\n")

end SharedLvmThin.Thin
