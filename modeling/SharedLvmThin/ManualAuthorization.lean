import SharedLvmThin.Effects
import SharedLvmThin.Runs
import SharedLvmThin.UpdatePolicySettlement

/-! The one-shot authorization of an unqualified plan. The APT guard refuses the plan and keeps a
proposal, the administrator authorizes the proposal, and the guard consumes the authorization when
APT presents the plan again. Guard and command each compute the context of the authorization. -/

namespace SharedLvmThin.ManualAuthorization
open Perl KeyedLists Effects UpdatePolicy

/-! ## Watched packages -/

/-- A catalogue that also watches source packages. -/
structure SourceManifest extends Manifest where
  watchedSourcePackages : List String
  watchedSourcePatterns : List String

section
variable (engines : Engines)

def watchedName (manifest : Manifest) (name : String) : Bool :=
  basePackage name ∈ manifest.watchedPackages ||
    manifest.watchedPackagePatterns.any fun pattern => engines.fullmatch pattern (basePackage name)

def sourceWatched (manifest : SourceManifest) (source : String) : Bool :=
  source ∈ manifest.watchedSourcePackages ||
    manifest.watchedSourcePatterns.any fun pattern => engines.fullmatch pattern source

def isArchive (action : Action) : Bool := action.action.toList.head? = some '/'

/-- The loop over the rows; `sources` are those of the archive rows so far. -/
def discover (manifest : SourceManifest) (payloadSource : Action → Except String String)
    (discovered : List String) (sources : List (String × String)) :
    List Action → Except String (List String)
  | [] => .ok discovered
  | action :: rest =>
    let name := basePackage action.package
    if name ∈ discovered ∨ watched engines manifest.toManifest action then
      discover manifest payloadSource discovered sources rest
    else do
      let known := if isArchive action then none else sources.lookup name
      let source ← known.elim (payloadSource action) .ok
      dieIf (isArchive action && (sources.lookup name).any (· ≠ source))
        ("APT plan has conflicting source identities for " ++ name)
      discover manifest payloadSource
        (if sourceWatched engines manifest source then name :: discovered else discovered)
        (if isArchive action then (name, source) :: sources else sources) rest

def SourceManifest.promote (manifest : SourceManifest) (discovered : List String) :
    SourceManifest :=
  { manifest with toManifest := manifest.toManifest.extend discovered }

/-- `extend_manifest_for_source_families`; archive rows come first. -/
def extendManifestForSourceFamilies (manifest : SourceManifest)
    (payloadSource : Action → Except String String) (actions : List Action) :
    Except String SourceManifest := do
  let ordered := actions.filter isArchive ++ actions.filter fun action => !isArchive action
  let discovered ← discover engines manifest payloadSource [] [] ordered
  return manifest.promote discovered

/-! ## The dpkg inventory -/

/-- One line of the unfiltered `dpkg-query -W`. -/
structure InventoryRow extends DpkgRecord where
  binary : String
deriving DecidableEq

def InventoryRow.isInstalled (row : InventoryRow) : Bool := row.status = "installed"

/-- One record for each package among the rows that are kept. -/
def collectState (keep : InventoryRow → Bool) (seen : List String) :
    List InventoryRow → Except String (List InventoryRow)
  | [] => .ok []
  | row :: rest =>
    if keep row then do
      dieIf (row.package ∈ seen) ("ambiguous multiarch package state for " ++ row.package)
      let records ← collectState keep (row.package :: seen) rest
      return row :: records
    else collectState keep seen rest

/-- `watched_state` of the guard: only installed rows count. -/
def guardWatchedState (manifest : Manifest) (inventory : List InventoryRow) :
    Except String (List InventoryRow) := do
  let records ← collectState
    (fun row => row.isInstalled && watchedName engines manifest row.package) [] inventory
  return sortBy (fun row => row.package) records

def installedPackages (inventory : List InventoryRow) : List String :=
  (inventory.filter InventoryRow.isInstalled).map fun row => row.package

/-- Every row of a target counts, in whatever state. -/
def packageStateRecords (targets : List String) (inventory : List InventoryRow) :
    Except String (List InventoryRow) := do
  let records ← collectState (fun row => row.package ∈ targets) [] inventory
  let missing := targets.filter fun name => name ∉ records.map fun row => row.package
  dieIf (missing ≠ []) ("frozen package disappeared from dpkg inventory: " ++
    ",".intercalate (sortBy id missing))
  return sortBy (fun row => row.package) records

def watchedInstalled (manifest : Manifest) (inventory : List InventoryRow) : List String :=
  (installedPackages inventory).filter (watchedName engines manifest)

/-- `watched_state` of the command. -/
def policyWatchedState (manifest : Manifest) (inventory : List InventoryRow) :
    Except String (List InventoryRow) :=
  packageStateRecords (sortBy id (watchedInstalled engines manifest inventory).dedup) inventory

end

/-! ## Records -/

abbrev Digest := { s : String // exactly 64 isLowerHex s = true }

structure Payload where
  path : String
  sha256 : String
  size : Nat
  device : Nat
  inode : Nat
deriving DecidableEq

structure ContextValue where
  schema : Int
  node : String
  bootId : String
  manifestSha256 : Digest
  policySha256 : Digest
  watchedState : List InventoryRow
deriving DecidableEq

structure AuthorizationContext extends ContextValue where
  contextSha256 : Digest
deriving DecidableEq

structure Authorization where
  schema : Int
  authorizationId : String
  planDigest : String
  payloads : List Payload
  context : AuthorizationContext
deriving DecidableEq

inductive Reason
  | verdict (verdict : Verdict)
  | previousPostGateRequired
  | packageTransitionPending
  | runtimeQualificationPending
  | freezeSchemaMigrationPending
  | manualAuthorizationMismatch
deriving DecidableEq

structure Proposal where
  reason : Reason
  planDigest : String
  payloads : List Payload
  packages : List String
deriving DecidableEq

inductive GateVerdict
  | qualified (verdict : Verdict)
  | warnUnqualified
  | manualOverride
deriving DecidableEq

structure PostGate where
  planDigest : String
  verdict : GateVerdict
  actions : List Action
  payloads : List Payload
  authorizationId : Option String
  contextSha256 : Option Digest
  bootId : String
deriving DecidableEq

structure GuardFiles where
  policy : Option Policy
  proposal : Option Proposal
  authorization : Option Authorization
  postGate : Option PostGate
  packageTransition : Bool
  runtimeQualification : Bool
  freezeMigration : Bool

/-- `digest`: SHA-256 of the canonical text, in hexadecimal. -/
structure Digests where
  manifest : SourceManifest → Digest
  policy : Policy → Digest
  plan : List Action → List Payload → Digest
  context : ContextValue → Digest

/-- What a guard or a command reads beside the state files. -/
structure Surroundings where
  manifest : SourceManifest
  payloadSource : Action → Except String String
  hashPayload : String → Except String Payload
  inventory : List InventoryRow
  runtime : Context
  node : String
  bootId : String

inductive Effect
  | proposed
  | authorized
  | consumed
  | gated
deriving DecidableEq

section
variable (engines : Engines) (digests : Digests) (world : Surroundings) (killed : Option Effect)

/-- The process may be killed behind each of its effects. -/
def perform (e : Effect) (f : GuardFiles → GuardFiles) : Prog GuardFiles Unit := do
  update f
  refuse (killed = some e) "killed"

def authorizationContext (manifest : SourceManifest) (policy : Policy)
    (records : List InventoryRow) : AuthorizationContext :=
  let value : ContextValue :=
    { schema := 1, node := world.node, bootId := world.bootId,
      manifestSha256 := digests.manifest manifest, policySha256 := digests.policy policy,
      watchedState := records }
  { value with contextSha256 := digests.context value }

/-! ## The guard -/

def hashPayloads : List Action → Except String (List Payload)
  | [] => .ok []
  | action :: rest => do
    if isArchive action then do
      let payload ← world.hashPayload action.action
      let payloads ← hashPayloads rest
      return payload :: payloads
    else hashPayloads rest

/-- What the guard says to APT; only a dispatch lets it go on to dpkg. -/
inductive Answer
  | unrelated
  | refused (reason : Reason)
  | dispatched (id : Option String) (planDigest : String) (payloads : List Payload)
      (context : Option AuthorizationContext)
deriving DecidableEq

def packagesOf (rows : List Action) : List String :=
  sortBy id (rows.map fun row => row.package).dedup

/-- `refuse` -/
def propose (reason : Reason) (digest : Digest) (related : List Action) (payloads : List Payload) :
    Prog GuardFiles Answer := do
  perform killed .proposed fun files =>
    { files with proposal := some ⟨reason, digest, payloads, packagesOf related⟩ }
  return .refused reason

def pendingReason (files : GuardFiles) : Option Reason :=
  if files.postGate.isSome then some .previousPostGateRequired
  else if files.packageTransition then some .packageTransitionPending
  else if files.runtimeQualification then some .runtimeQualificationPending
  else if files.freezeMigration then some .freezeSchemaMigrationPending
  else none

def manualAuthorizationMatches (authorization : Authorization) (planDigest : String)
    (payloads : List Payload) (context : AuthorizationContext) : Bool :=
  authorization.schema = 2 && exactly 32 isLowerHex authorization.authorizationId &&
    authorization.planDigest = planDigest && authorization.payloads = payloads &&
    authorization.context = context

/-- The context that the guard expects. -/
def expectedContext (manifest : SourceManifest) (policy : Policy) :
    Except String AuthorizationContext := do
  let records ← guardWatchedState engines manifest.toManifest world.inventory
  return authorizationContext digests world manifest policy records

/-- The receipt of a dispatch. -/
def gateOf (verdict : GateVerdict) (actions : List Action) (digest : Digest)
    (payloads : List Payload) (id : Option String) (context : Option AuthorizationContext) :
    PostGate where
  planDigest := digest
  verdict := verdict
  actions := actions
  payloads := payloads
  authorizationId := id
  contextSha256 := context.map fun context => context.contextSha256
  bootId := world.bootId

def dispatch (verdict : GateVerdict) (actions : List Action) (digest : Digest)
    (payloads : List Payload) (id : Option String) (context : Option AuthorizationContext) :
    Prog GuardFiles Answer := do
  perform killed .gated fun files =>
    { files with postGate := some (gateOf world verdict actions digest payloads id context) }
  return .dispatched id digest payloads context

/-- The authorization is consumed before the dispatch. -/
def dispatchManual (policy : Policy) (actions : List Action) (digest : Digest)
    (payloads : List Payload) (context : AuthorizationContext) (id : String) :
    Prog GuardFiles Answer := do
  perform killed .consumed fun files => { files with authorization := none }
  let verdict := if policy.mode = some "WARN" then GateVerdict.warnUnqualified else .manualOverride
  dispatch world killed verdict actions digest payloads (some id) (some context)

def guardManual (manifest : SourceManifest) (policy : Policy) (actions related : List Action)
    (digest : Digest) (payloads : List Payload) : Option Authorization → Prog GuardFiles Answer
  | none => propose killed (.verdict .requireExactManualAuthorization) digest related payloads
  | some authorization => do
    let context ← lift (expectedContext engines digests world manifest policy)
    if manualAuthorizationMatches authorization digest payloads context then
      dispatchManual world killed policy actions digest payloads context
        authorization.authorizationId
    else propose killed .manualAuthorizationMismatch digest related payloads

/-- The part of `main` that holds the policy lock. -/
def guardLocked (manifest : SourceManifest) (actions related : List Action) :
    Prog GuardFiles Answer := do
  let files ← read
  let policy ← lift (files.policy.elim (.error "No such file or directory") .ok)
  let payloads ← lift (hashPayloads world actions)
  let digest := digests.plan actions payloads
  match pendingReason files with
  | some reason => propose killed reason digest related payloads
  | none => do
    let result ← lift (evaluate engines actions manifest.toManifest policy world.runtime)
    match result.verdict with
    | .allowQualified =>
      dispatch world killed (.qualified .allowQualified) actions digest payloads none none
    | .allowQualifiedEdge =>
      dispatch world killed (.qualified .allowQualifiedEdge) actions digest payloads none none
    | .requireExactManualAuthorization =>
      guardManual engines digests world killed manifest policy actions related digest payloads
        files.authorization
    | verdict => propose killed (.verdict verdict) digest result.relevant payloads

/-- `main` of the guard. -/
def guardMain (actions : List Action) : Prog GuardFiles Answer := do
  let manifest ← lift
    (extendManifestForSourceFamilies engines world.manifest world.payloadSource actions)
  let related := relevantActions engines manifest.toManifest actions
  if related = [] then return .unrelated
  else guardLocked engines digests world killed manifest actions related

/-! ## The command -/

def proposedManifest (packages : List String) : SourceManifest :=
  world.manifest.promote
    ((packages.filter fun name => !watchedName engines world.manifest.toManifest name).map
      basePackage)

def isProposalOf (packages : List String) : Bool :=
  packages ≠ [] && packages.all isPackage && packages = sortBy id packages.dedup

/-- `command_authorize`, with the identity that it draws. -/
def authorizeProposal (id : { s : String // exactly 32 isLowerHex s = true }) :
    Prog GuardFiles Unit := do
  let files ← read
  let policy ← lift (files.policy.elim
    (.error "select warn before authorizing an unqualified plan") .ok)
  refuse (policy.mode ≠ some "WARN" && policy.mode ≠ some "MANUAL_OVERRIDE")
    "select warn before authorizing an unqualified plan"
  refuse (files.postGate.isSome || files.packageTransition || files.freezeMigration)
    "another update transaction is pending; authorization refused"
  let proposal ← lift (files.proposal.elim (.error "no refused APT proposal is available") .ok)
  refuse (proposal.planDigest = "") "no refused APT proposal is available"
  refuse (!isProposalOf proposal.packages) "refused APT proposal has invalid package identities"
  let manifest := proposedManifest engines world proposal.packages
  let records ← lift (policyWatchedState engines manifest.toManifest world.inventory)
  let context := authorizationContext digests world manifest policy records
  perform killed .authorized fun files =>
    { files with authorization := some ⟨2, id, proposal.planDigest, proposal.payloads, context⟩ }

end

end SharedLvmThin.ManualAuthorization
