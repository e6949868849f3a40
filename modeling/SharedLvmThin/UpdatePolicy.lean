import SharedLvmThin.KeyedLists
import SharedLvmThin.PerlText

/-! The policy of the APT transaction guard. A plan is judged by the versions that its rows leave
behind, against a manifest of qualified package tuples and of qualified edges between them. The
regular expressions of the manifest and the comparison of Debian versions are parameters. -/

namespace SharedLvmThin.UpdatePolicy
open Perl KeyedLists

/-! ## Data -/

/-- One row of the APT hook protocol. -/
structure Action where
  package : String
  oldVersion : String
  oldArch : String
  oldMultiarch : String
  direction : String
  newVersion : String
  newArch : String
  newMultiarch : String
  action : String
deriving DecidableEq

/-- The versions a tuple lists, each package once. -/
structure Packages where
  entries : List (String × String)
  nodup : (entries.map Prod.fst).Nodup
deriving DecidableEq

def Packages.get (p : Packages) (name : String) : Option String := p.entries.lookup name

structure PackageTuple where
  id : String
  status : Option String
  requiredTests : List String
  profiles : List String
  api : Int
  runningKernel : Option String
  scopes : List String
  pluginVersions : List String
  packages : Packages
deriving DecidableEq

structure ApiTransition where
  source : Int
  target : Int
  package : String
  oldVersion : Option String
  newVersion : Option String
deriving DecidableEq

structure Edge where
  id : Option String
  source : String
  target : String
  status : Option String
  requiredTests : List String
  apiTransition : Option ApiTransition
  allowedPackageChanges : List String
deriving DecidableEq

structure IncompatibleRule where
  storageMin : String
  qemuMaxExclusive : String
  reason : String

structure Manifest where
  watchedPackages : List String
  watchedPackagePatterns : List String
  tuples : List PackageTuple
  rollingEdges : List Edge
  knownIncompatible : List IncompatibleRule

structure Policy where
  mode : Option String
  requiredScope : Option String

/-- Installed versions; a package without one is absent. -/
abbrev Versions := String → Option String

structure Context where
  installed : Versions
  profile : String
  api : Int
  runningKernel : String
  pluginVersion : String

/-- `re.fullmatch` and `dpkg --compare-versions`. -/
structure Engines where
  fullmatch : String → String → Bool
  compareVersions : String → String → String → Bool

inductive Verdict
  | allowUnrelated
  | refusePolicyUnselected
  | requireExactManualAuthorization
  | refuseFreeze
  | refuseUnqualifiedPackageIdentityChange
  | refuseKnownIncompatible
  | refuseUnqualified
  | refuseUnqualifiedPackageChange
  | allowQualified
  | refuseUnqualifiedEdge
  | refuseUnqualifiedApiTransition
  | refuseUnsafeEdgeAllowance
  | allowQualifiedEdge
deriving DecidableEq

inductive IdentityReason
  | architectureChange
  | multiarchChange
deriving DecidableEq

/-- A row whose identity a tuple of versions cannot prove. -/
structure IdentityChange where
  package : String
  before : String
  after : String
  reason : IdentityReason
deriving DecidableEq

structure Evaluation where
  verdict : Verdict
  relevant : List Action
  postGateRequired : Bool := false
  identityChanges : List IdentityChange := []
  reason : Option String := none
  packages : List String := []
  currentTuple : Option String := none
  targetTuple : Option String := none
  edge : Option String := none
  sourceApi : Option Int := none
  targetApi : Option Int := none
deriving DecidableEq

/-! ## Rows -/

/-- `name.split(":", 1)[0]` -/
def basePackage (name : String) : String := String.ofList (name.toList.takeWhile (· ≠ ':'))

def watched (engines : Engines) (manifest : Manifest) (action : Action) : Bool :=
  let name := basePackage action.package
  name ∈ manifest.watchedPackages ||
    manifest.watchedPackagePatterns.any fun pattern => engines.fullmatch pattern name

def relevantActions (engines : Engines) (manifest : Manifest) (actions : List Action) : List Action :=
  actions.filter (watched engines manifest)

def identityChange (action : Action) : Option IdentityChange :=
  if action.oldArch ≠ "-" ∧ action.newArch ≠ "-" ∧ action.oldArch ≠ action.newArch then
    some ⟨action.package, action.oldArch, action.newArch, .architectureChange⟩
  else if action.oldMultiarch ≠ "-" ∧ action.newMultiarch ≠ "-" ∧
      action.oldMultiarch ≠ action.newMultiarch then
    some ⟨action.package, action.oldMultiarch, action.newMultiarch, .multiarchChange⟩
  else
    none

def unsupportedIdentityChanges (actions : List Action) : List IdentityChange :=
  actions.filterMap identityChange

def isRemoval (action : Action) : Bool := action.action = "**REMOVE**" || action.newVersion = "-"

/-- The version a row leaves behind. -/
def outcome (action : Action) : Option String :=
  if isRemoval action then none else some action.newVersion

/-- A later row of the same base package overwrites an earlier one. -/
def resultingVersions (installed : Versions) (actions : List Action) : Versions :=
  actions.foldl (fun result action => Function.update result (basePackage action.package)
    (outcome action)) installed

/-! ## Tuples -/

/-- What a tuple has to match besides the versions and the API. -/
structure Query where
  profile : String
  runningKernel : String
  pluginVersion : String
  scope : String

def isQualified (status : Option String) : Bool :=
  status = some "QUALIFIED" || status = some "EXACT_LAB_TESTED"

def tupleMatches (versions : Versions) (query : Query) (api : Int) (item : PackageTuple) : Bool :=
  isQualified item.status && item.requiredTests = [] && query.profile ∈ item.profiles &&
    item.api = api && item.runningKernel = some query.runningKernel && query.scope ∈ item.scopes &&
    query.pluginVersion ∈ item.pluginVersions && item.packages.entries ≠ [] &&
    item.packages.entries.all fun entry => versions entry.1 = some entry.2

def atMostOne (rows : List PackageTuple) (message : String) :
    Except String (Option PackageTuple) := do
  dieIf (rows.length > 1) message
  return rows.head?

def exactTuple (manifest : Manifest) (versions : Versions) (query : Query) (api : Int) :
    Except String (Option PackageTuple) :=
  atMostOne (manifest.tuples.filter (tupleMatches versions query api))
    "runtime matches multiple qualified compatibility tuples"

/-- The candidate's API is resolved from the reviewed tuples. -/
def plannedTuple (manifest : Manifest) (versions : Versions) (query : Query) :
    Except String (Option PackageTuple) := do
  let api14 ← exactTuple manifest versions query 14
  let api15 ← exactTuple manifest versions query 15
  let api16 ← exactTuple manifest versions query 16
  atMostOne (api14.toList ++ api15.toList ++ api16.toList)
    "candidate matches multiple qualified compatibility tuples"

def knownIncompatible (engines : Engines) (manifest : Manifest) (versions : Versions) :
    Option IncompatibleRule :=
  match versions "libpve-storage-perl", versions "qemu-server" with
  | some storage, some qemu =>
    if storage = "" || qemu = "" then none
    else manifest.knownIncompatible.find? fun rule =>
      engines.compareVersions storage "ge" rule.storageMin &&
        engines.compareVersions qemu "lt" rule.qemuMaxExclusive
  | _, _ => none

/-! ## The verdict -/

/-- The watched packages of a plan that the target tuple does not list. -/
def unrepresented (target : PackageTuple) (related : List Action) : List String :=
  sortBy id ((related.map fun row => basePackage row.package).filter
    fun name => name ∉ target.packages.entries.map Prod.fst).dedup

def matchingEdges (manifest : Manifest) (current target : PackageTuple) : List Edge :=
  manifest.rollingEdges.filter fun edge => edge.source = current.id && edge.target = target.id &&
    isQualified edge.status && edge.requiredTests = []

def storagePackage : String := "libpve-storage-perl"

def expectedTransition (current target : PackageTuple) : ApiTransition where
  source := current.api
  target := target.api
  package := storagePackage
  oldVersion := current.packages.get storagePackage
  newVersion := target.packages.get storagePackage

def validTransition (current target : PackageTuple) (edge : Edge) (related : List Action) : Bool :=
  let expected := expectedTransition current target
  match related.filter fun row => basePackage row.package = storagePackage with
  | [row] =>
    target.api = current.api + 1 && edge.apiTransition = some expected &&
      expected.oldVersion ≠ expected.newVersion && row.action.toList.head? = some '/' &&
      some row.oldVersion = expected.oldVersion && some row.newVersion = expected.newVersion
  | _ => false

section
variable (manifest : Manifest) (related : List Action) (current target : PackageTuple)

def tupleVerdict (verdict : Verdict) : Evaluation :=
  { verdict := verdict, relevant := related, currentTuple := some current.id,
    targetTuple := some target.id }

def evaluateEdge : Except String Evaluation :=
  match matchingEdges manifest current target with
  | [] => .ok (tupleVerdict related current target .refuseUnqualifiedEdge)
  | [edge] =>
    if target.api ≠ current.api ∧ !validTransition current target edge related then
      .ok (tupleVerdict related current target .refuseUnqualifiedApiTransition)
    else if edge.allowedPackageChanges ≠ [] then
      .ok { tupleVerdict related current target .refuseUnsafeEdgeAllowance with
            packages := sortBy id edge.allowedPackageChanges.dedup }
    else if unrepresented target related ≠ [] then
      .ok { tupleVerdict related current target .refuseUnqualifiedPackageChange with
            packages := unrepresented target related }
    else
      .ok { tupleVerdict related current target .allowQualifiedEdge with
            edge := edge.id
            sourceApi := some current.api
            targetApi := some target.api
            postGateRequired := true }
  | _ => .error "multiple qualified upgrade edges match the transaction"

def evaluateTuples : Except String Evaluation :=
  if current.id = target.id then
    if unrepresented target related ≠ [] then
      .ok { tupleVerdict related current target .refuseUnqualifiedPackageChange with
            packages := unrepresented target related }
    else
      .ok { tupleVerdict related current target .allowQualified with postGateRequired := true }
  else
    evaluateEdge manifest related current target

end

def queryOf (policy : Policy) (context : Context) : Query where
  profile := context.profile
  runningKernel := context.runningKernel
  pluginVersion := context.pluginVersion
  scope := policy.requiredScope.getD "san-dataplane"

/-- The qualified modes. -/
def evaluateQualified (engines : Engines) (actions : List Action) (manifest : Manifest)
    (policy : Policy) (context : Context) (related : List Action) : Except String Evaluation := do
  let changes := unsupportedIdentityChanges related
  if changes ≠ [] then
    return { verdict := .refuseUnqualifiedPackageIdentityChange, relevant := related,
             identityChanges := changes }
  let targetVersions := resultingVersions context.installed actions
  match knownIncompatible engines manifest targetVersions with
  | some rule =>
    return { verdict := .refuseKnownIncompatible, relevant := related, reason := some rule.reason }
  | none =>
    let current ← exactTuple manifest context.installed (queryOf policy context) context.api
    let target ← plannedTuple manifest targetVersions (queryOf policy context)
    match current, target with
    | some current, some target => evaluateTuples manifest related current target
    | _, _ =>
      return { verdict := .refuseUnqualified, relevant := related,
               currentTuple := current.map PackageTuple.id,
               targetTuple := target.map PackageTuple.id }

def evaluate (engines : Engines) (actions : List Action) (manifest : Manifest) (policy : Policy)
    (context : Context) : Except String Evaluation :=
  let related := relevantActions engines manifest actions
  if related = [] then .ok { verdict := .allowUnrelated, relevant := [] }
  else if policy.mode = some "UNSELECTED" then
    .ok { verdict := .refusePolicyUnselected, relevant := related }
  else if policy.mode = some "WARN" ∨ policy.mode = some "MANUAL_OVERRIDE" then
    .ok { verdict := .requireExactManualAuthorization, relevant := related }
  else if policy.mode ∉ [some "QUALIFIED_AUTO", some "QUALIFIED_ONLY", some "FREEZE"] then
    .error "unknown update policy mode"
  else if policy.mode = some "FREEZE" then .ok { verdict := .refuseFreeze, relevant := related }
  else evaluateQualified engines actions manifest policy context related

end SharedLvmThin.UpdatePolicy
