import SharedLvmThin.UpdatePolicyLanding

/-! What follows a dispatched transaction: dpkg executes the rows, and the post-update gate
compares the package database with the rows and the runtime with the catalogue. -/

namespace SharedLvmThin.UpdatePolicy
open Perl KeyedLists

/-! ## Protocol rows -/

def isLowerAlnum (c : Char) : Bool := ('a' ≤ c && c ≤ 'z') || c.isDigit

/-- A name that starts with a lower-case letter or a digit and goes on within `more`. -/
def isName (more : List Char) (s : String) : Bool :=
  match s.toList with
  | [] => false
  | c :: rest => isLowerAlnum c && rest.all fun d => isLowerAlnum d || d ∈ more

/-- `PACKAGE_RE` -/
def isPackage (s : String) : Bool :=
  isName ['+', '.', '-'] (basePackage s) &&
    match s.toList.dropWhile (· ≠ ':') with
    | [] => true
    | _ :: arch => isName ['-'] (String.ofList arch)

/-- `VERSION_RE` -/
def isVersion (s : String) : Bool :=
  plus (fun c => c.isAlphanum || c ∈ ['.', '+', ':', '~', '_', '-']) s

/-- `ARCH_RE` -/
def isArch (s : String) : Bool := s = "-" || isName ['-'] s

def multiarch : List String := ["-", "same", "foreign", "allowed", "none", "no"]

/-- The row checks of `parse_protocol_v3`. -/
def isProtocolRow (row : Action) : Bool :=
  isPackage row.package && (row.oldVersion = "-" || isVersion row.oldVersion) &&
    (row.newVersion = "-" || isVersion row.newVersion) && isArch row.oldArch && isArch row.newArch
      &&
    row.oldMultiarch ∈ multiarch && row.newMultiarch ∈ multiarch && row.direction ∈ ["<", ">",
      "="] &&
    (row.action ∈ ["**CONFIGURE**", "**REMOVE**"] || row.action.toList.head? = some '/')

/-! ## The catalogue -/

structure Catalogue extends Manifest where
  schema : Int
  catalogue : String

def profiles : List String := ["dual", "thick-only"]

def isCatalogueRow (row : PackageTuple) : Bool :=
  row.id ≠ "" && row.runningKernel.any (· ≠ "") && row.status.any (· ≠ "") && row.profiles ≠ [] &&
    row.profiles.all (· ∈ profiles) && row.pluginVersions ≠ [] && row.pluginVersions.all isVersion
      &&
    row.packages.entries ≠ [] &&
    row.packages.entries.all fun entry => isPackage entry.1 && isVersion entry.2

def validateCandidateCatalogue (manifest : Catalogue) : Except String Unit := do
  dieIf (manifest.schema ≠ 1 || manifest.catalogue ≠ "pve-qualified-tuples-v1")
    "invalid candidate tuple catalogue"
  dieIf (manifest.watchedPackages = [] ||
      !(manifest.watchedPackages.all fun name => isPackage name && ':' ∉ name.toList) ||
      !decide manifest.watchedPackages.Nodup || manifest.tuples = [])
    "incomplete candidate tuple catalogue"
  forEach manifest.tuples fun row => do
    dieIf (!isCatalogueRow row) "malformed candidate tuple catalogue row"
    dieIf (!row.packages.entries.all fun entry => entry.1 ∈ manifest.watchedPackages)
      "candidate tuple requires an unwatched package"

/-- `extend_manifest_for_source_families`: binaries of watched sources are watched too. -/
def Manifest.extend (manifest : Manifest) (discovered : List String) : Manifest :=
  if discovered = [] then manifest
  else { manifest with
    watchedPackages := sortBy id (manifest.watchedPackages ++ discovered).dedup }

/-! ## The package database -/

/-- One line of `dpkg-query -W`. -/
structure DpkgRecord where
  package : String
  architecture : String
  version : String
  status : String
deriving DecidableEq

/-- A package has at most one record for each architecture. -/
structure Database where
  records : List DpkgRecord
  nodup : (records.map fun r => (r.package, r.architecture)).Nodup

def Database.named (db : Database) (name : String) : List DpkgRecord :=
  db.records.filter fun r => r.package = name

/-- `package_version`: for several architectures the answer does not split into two fields. -/
def Database.version (db : Database) (name : String) : Option String :=
  match db.named name with
  | [record] => if record.status = "installed" then some record.version else none
  | _ => none

structure Node where
  database : Database
  flavor : String
  api : Int
  runningKernel : String

def pluginPackage (flavor : String) : String :=
  if flavor = "thick-only" then "pve-sharedlvmthin-thick" else "pve-sharedlvmthin"

/-- The context the guard reads on a node with an installed plugin. -/
structure Observes (node : Node) (manifest : Manifest) (context : Context) : Prop where
  installed : ∀ name, context.installed name =
    if name ∈ manifest.watchedPackages then node.database.version name else none
  profile : context.profile = node.flavor
  api : context.api = node.api
  runningKernel : context.runningKernel = node.runningKernel
  pluginVersion : node.database.version (pluginPackage node.flavor) = some context.pluginVersion

/-- A row names the package and one of its architectures. -/
def Action.addresses (row : Action) (record : DpkgRecord) : Prop :=
  basePackage row.package = record.package ∧
    (record.architecture = row.oldArch ∨ record.architecture = row.newArch)

/-- dpkg executes the rows exactly: each reaches its version and state, an architecture it moves
away from is left, and no other record changes. -/
structure Executes (actions : List Action) (before after : Database) : Prop where
  installed : ∀ row ∈ actions, isRemoval row = false →
    ⟨basePackage row.package, row.newArch, row.newVersion, "installed"⟩ ∈ after.records
  removed : ∀ row ∈ actions, isRemoval row = true →
    ∀ record ∈ after.records, row.addresses record → record.status ≠ "installed"
  moved : ∀ row ∈ actions, isRemoval row = false → row.oldArch ≠ row.newArch →
    ∀ record ∈ after.records, record.package = basePackage row.package →
      record.architecture ≠ row.oldArch
  others : ∀ record, (∀ row ∈ actions, ¬ row.addresses record) →
    (record ∈ after.records ↔ record ∈ before.records)

/-! ## Settlement -/

structure Wanted where
  version : String
  architecture : String
deriving DecidableEq

def wanted (row : Action) : Option Wanted :=
  if isRemoval row then none else some ⟨row.newVersion, row.newArch⟩

abbrev Expectations := List (String × Option Wanted)

/-- One round of the loop over the rows of the receipt. -/
def expect (expected : Expectations) (row : Action) : Except String Expectations := do
  let name := basePackage row.package
  dieIf (name = "") "post-update receipt contains an invalid package"
  match expected.lookup name with
  | none => return expected ++ [(name, wanted row)]
  | some earlier => do
    dieIf (earlier ≠ wanted row) ("ambiguous expected version for " ++ name)
    return expected

def expectAll (expected : Expectations) : List Action → Except String Expectations
  | [] => .ok expected
  | row :: rest => do
    let expected ← expect expected row
    expectAll expected rest

def expectations (actions : List Action) : Except String Expectations := do
  dieIf (actions = []) "post-update receipt has no exact action set"
  expectAll [] actions

/-- What the settlement says of one package. -/
def mismatch (db : Database) (name : String) : Option Wanted → List String
  | none =>
    if (db.named name).any fun r => r.status = "installed" then
      [name ++ ": expected ABSENT, got installed runtime"]
    else []
  | some want =>
    match db.named name with
    | [record] =>
      if record.version ≠ want.version ∨ record.architecture ≠ want.architecture ∨
          record.status ≠ "installed" then
        [name ++ ": expected " ++ want.version ++ "|" ++ want.architecture ++ "|installed, got " ++
          record.version ++ "|" ++ record.architecture ++ "|" ++ record.status]
      else []
    | records => [name ++ ": expected one exact dpkg record, got " ++ toString records.length]

def exactPackageSettlement (db : Database) (expected : Expectations) : List String :=
  (sortBy Prod.fst expected).flatMap fun entry => mismatch db entry.1 entry.2

/-! ## The runtime tuple -/

def observedMatches (versions : Versions) (profile : String) (api : Int) (runningKernel : String)
    (pluginVersion : Option String) (item : PackageTuple) : Bool :=
  profile ∈ item.profiles && item.api = api && item.runningKernel = some runningKernel &&
    pluginVersion.any (· ∈ item.pluginVersions) && item.packages.entries ≠ [] &&
    item.packages.entries.all fun entry => versions entry.1 = some entry.2

def observedTuple (manifest : Manifest) (versions : Versions) (profile : String) (api : Int)
    (runningKernel : String) (pluginVersion : Option String) :
    Except String (Option PackageTuple) :=
  atMostOne (manifest.tuples.filter
    (observedMatches versions profile api runningKernel pluginVersion))
    "runtime matches multiple compatibility tuples"

section
local instance optionText_lawful : LawfulBEq (Option String) := inferInstance

def assertListedRuntimeTuple (manifest : Manifest) (node : Node)
    (expectedPackage expectedVersion : Option String) : Except String PackageTuple := do
  dieIf (node.flavor ∉ profiles) "installed package profile is invalid"
  let plugin := pluginPackage node.flavor
  let pluginVersion := node.database.version plugin
  dieIf (expectedPackage.any (· ≠ plugin))
    "runtime tuple package profile differs from the candidate"
  dieIf (expectedVersion.isSome && expectedVersion ≠ pluginVersion)
    "runtime tuple package version differs from the candidate"
  let versions : Versions := fun name =>
    if name ∈ manifest.watchedPackages then node.database.version name else none
  match ← observedTuple manifest versions node.flavor node.api node.runningKernel pluginVersion with
  | none => .error "runtime tuple is not listed"
  | some observed => do
    dieIf (observed.status ∉ [some "EXACT_LAB_TESTED", some "RETEST_REQUIRED"])
      ("runtime tuple '" ++ observed.id ++ "' is not admissible: " ++ observed.status.getD "None")
    return observed

end

/-- The three checks of the post-update gate pass, the last one with the target tuple. -/
def Settles (manifest : Manifest) (actions : List Action) (node : Node) (target : PackageTuple) :
    Prop :=
  ∃ expected, expectations actions = .ok expected ∧
    exactPackageSettlement node.database expected = [] ∧
    assertListedRuntimeTuple manifest node (some (pluginPackage node.flavor))
      (node.database.version (pluginPackage node.flavor)) = .ok target

end SharedLvmThin.UpdatePolicy
