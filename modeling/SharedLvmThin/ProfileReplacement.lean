import SharedLvmThin.PerlText

/-! The evidence of a package-profile replacement. Executors, maintainer scripts and settlements run
their sections under one lock, and each may stop between any two file effects. -/

namespace SharedLvmThin.ProfileReplacement
open Perl

/-! ## Records -/

inductive Phase
  | ready
  | prermIntent
  | dpkgDone
  | complete
deriving DecidableEq

inductive Settlement
  | dpkgExitZero
  | recoveredExactTarget
deriving DecidableEq

/-- A process, by its number and its start. -/
structure Child where
  pid : Nat
  start : String
deriving DecidableEq

/-- `BASE_KEYS` without the phase: what all evidence of one transaction shares. -/
structure Identity where
  schema : String
  txid : String
  created : Int
  host : String
  bootId : String
  sourcePackage : String
  sourceVersion : String
  sourceFlavor : String
  targetPackage : String
  targetVersion : String
  targetFlavor : String
  candidate : String
  candidateSha256 : String
  dpkg : Child
deriving DecidableEq

structure Record extends Identity where
  phase : Phase
  consumed : Option Int := none
  dpkgCompleted : Option Int := none
  dpkgExit : Option Int := none
  completed : Option Int := none
  settlement : Option Settlement := none
deriving DecidableEq

/-- The names of a record beside `BASE_KEYS`. -/
def Record.extras (r : Record) : List String :=
  (if r.consumed.isSome then ["consumed"] else []) ++
    (if r.dpkgCompleted.isSome then ["dpkg_completed"] else []) ++
    (if r.dpkgExit.isSome then ["dpkg_exit"] else []) ++
    (if r.completed.isSome then ["completed"] else []) ++
    (if r.settlement.isSome then ["settlement"] else [])

def schema : String := "slt-profile-replacement/v2"

/-- `PACKAGES`, with their flavors. -/
def packages : List (String × String) :=
  [("pve-sharedlvmthin", "dual"), ("pve-sharedlvmthin-thick", "thick-only")]

def pinned : String := "/var/lib/pve-sharedlvmthin/profile-replacement/candidate.deb"

def maxAge : Int := 300

def isTxid (s : String) : Bool := exactly 32 isLowerHex s

def isSha256 (s : String) : Bool := exactly 64 isLowerHex s

def isSafeVersion (s : String) : Bool :=
  plus (fun c => c.isAlphanum || c ∈ ['.', '+', ':', '~', '_', '-']) s

/-! ## Files -/

inductive Evidence
  | ready
  | intent
  | done
  | complete
deriving DecidableEq

/-- A file is created empty and then written; the transaction of an empty one is its writer's. -/
inductive File
  | absent
  | torn (txid : String)
  | whole (record : Record)
deriving DecidableEq

def File.lexists : File → Bool
  | absent => false
  | _ => true

/-- The candidate is pinned for a transaction. -/
structure Files where
  evidence : Evidence → File
  candidate : Option String
  archive : String → Option Record

def Files.lexists (files : Files) (e : Evidence) : Bool := (files.evidence e).lexists

inductive Effect
  | createCandidate (txid : String)
  | create (e : Evidence) (txid : String)
  | fill (e : Evidence) (record : Record)
  | unlink (e : Evidence)
  | unlinkCandidate
  | archive (txid : String)
  | require (holds : Bool) (message : String)

def Files.put (files : Files) (e : Evidence) (file : File) : Files :=
  { files with evidence := Function.update files.evidence e file }

/-- An effect that is refused leaves its section nothing but to stop. -/
def Effect.apply (files : Files) : Effect → Option Files
  | .createCandidate txid =>
    if files.candidate.isNone then some { files with candidate := some txid } else none
  | .create e txid => if files.lexists e then none else some (files.put e (.torn txid))
  | .fill e record => if files.lexists e then some (files.put e (.whole record)) else none
  | .unlink e => if files.lexists e then some (files.put e .absent) else none
  | .unlinkCandidate => some { files with candidate := none }
  | .archive txid =>
    match files.evidence .complete with
    | .whole record =>
      some { files.put .complete .absent with
             archive := Function.update files.archive txid (some record) }
    | _ => none
  | .require holds _ => if holds then some files else none

def writeCreate (e : Evidence) (record : Record) : List Effect :=
  [.create e record.txid, .fill e record]

def readRecord : File → Except String Record
  | .absent => .error "No such file or directory"
  | .torn _ => .error "profile replacement record is invalid"
  | .whole record => .ok record

/-! ## What a section observes -/

inductive ProcStart
  | gone
  | unobservable
  | started (start : String)

structure World where
  host : String
  bootId : String
  now : Int
  isRegular : String → Bool
  sha256 : String → String
  candidateField : String → String → Option String
  installed : String → Option (String × String)
  procStart : Nat → ProcStart

structure ExecuteArgs where
  candidate : String
  sha256 : String
  sourcePackage : String
  sourceVersion : String
  targetPackage : String
  targetVersion : String

structure VerifyArgs where
  sourcePackage : String
  sourceVersion : String
  action : String

structure FinalizeArgs where
  targetPackage : String
  targetVersion : String
  candidateSha256 : String
  txid : String
  recovery : Bool

/-- A process among the ancestors of a maintainer script. -/
structure Ancestor where
  process : Child
  executable : String
  cmdline : List String

section
variable (world : World)

def validateShape (r : Record) (phase : Phase) (extras : List String) : Except String Unit := do
  dieIf (r.extras ≠ extras) "profile replacement record shape is invalid"
  dieIf (r.schema ≠ schema || r.phase ≠ phase) "profile replacement phase is invalid"
  dieIf (!isTxid r.txid) "profile replacement transaction identity is invalid"
  dieIf (r.host ≠ world.host) "profile replacement host changed"
  dieIf ((packages.lookup r.sourcePackage).isNone || (packages.lookup r.targetPackage).isNone ||
      r.sourcePackage = r.targetPackage) "profile replacement package identity is invalid"
  dieIf (packages.lookup r.sourcePackage ≠ some r.sourceFlavor ||
      packages.lookup r.targetPackage ≠ some r.targetFlavor)
    "profile replacement flavor identity is invalid"
  dieIf (r.sourceVersion ≠ r.targetVersion || !isSafeVersion r.targetVersion)
    "profile replacement version identity is invalid"
  dieIf (r.created < 0) "profile replacement creation time is invalid"
  dieIf (r.dpkg.pid ≤ 1) "profile replacement process identity is invalid"
  dieIf (r.candidate ≠ pinned || !isSha256 r.candidateSha256)
    "profile replacement candidate identity is invalid"

def validateCandidate (files : Files) (r : Record) : Except String Unit := do
  dieIf (files.candidate.isNone || !world.isRegular r.candidate) ("unsafe file: " ++ r.candidate)
  dieIf (world.sha256 r.candidate ≠ r.candidateSha256) "profile replacement candidate changed"
  dieIf (world.candidateField r.candidate "Package" ≠ some r.targetPackage ||
      world.candidateField r.candidate "Version" ≠ some r.targetVersion)
    "profile replacement candidate package changed"

/-- `installed_exact`: the target is installed or held, the source is not. -/
def isInstalledExact (r : Record) : Bool :=
  (world.installed r.targetPackage = some ("ii", r.targetVersion) ||
      world.installed r.targetPackage = some ("hi", r.targetVersion)) &&
    !(world.installed r.sourcePackage).any fun status => status.1 = "ii"

def validateComplete (r : Record) : Except String Unit := do
  let normal := ["consumed", "dpkg_completed", "dpkg_exit", "completed", "settlement"]
  dieIf (r.extras ≠ normal && r.extras ≠ ["consumed", "completed", "settlement"])
    "completed transaction record shape is invalid"
  validateShape world r .complete r.extras
  if r.extras = normal then
    dieIf (r.dpkgExit ≠ some 0 || r.settlement ≠ some .dpkgExitZero)
      "normal completion evidence is invalid"
  else
    dieIf (r.settlement ≠ some .recoveredExactTarget) "recovered completion evidence is invalid"

def executorIsAlive (r : Record) : Except String Bool :=
  if r.bootId ≠ world.bootId then .ok false
  else match world.procStart r.dpkg.pid with
    | .gone => .ok false
    | .unobservable => .error "exact dpkg executor state is unobservable"
    | .started start => .ok (start = r.dpkg.start)

/-- `exact_dpkg_process` -/
def exactDpkgProcess (ancestors : List Ancestor) (r : Record) : Except String Unit :=
  match ancestors.find? fun a => a.process.pid = r.dpkg.pid with
  | none => .error "authorized dpkg is not a live ancestor"
  | some a => do
    dieIf (a.process.start ≠ r.dpkg.start) "authorized dpkg is not a live ancestor"
    dieIf (a.executable ≠ "/usr/bin/dpkg") "authorized process is not dpkg"
    dieIf (a.cmdline ≠ ["/usr/bin/dpkg", "--force-hold", "-i", r.candidate])
      "authorized dpkg arguments changed"

/-! ## The sections -/

def prepare (args : ExecuteArgs) (txid : String) (child : Child) (files : Files) :
    Except String (Record × List Effect) := do
  dieIf (args.candidate.toList.head? ≠ some '/') "candidate path must be absolute"
  dieIf (!world.isRegular args.candidate) ("unsafe file: " ++ args.candidate)
  dieIf (!isSha256 args.sha256 || world.sha256 args.candidate ≠ args.sha256)
    "candidate digest changed"
  dieIf ((packages.lookup args.sourcePackage).isNone || (packages.lookup args.targetPackage).isNone
    ||
      args.sourcePackage = args.targetPackage) "package profile transition is invalid"
  dieIf (!isSafeVersion args.sourceVersion || args.sourceVersion ≠ args.targetVersion)
    "cross-profile replacement requires one exact version"
  dieIf (world.candidateField args.candidate "Package" ≠ some args.targetPackage ||
      world.candidateField args.candidate "Version" ≠ some args.targetVersion ||
      world.candidateField args.candidate "Architecture" ≠ some "all") "candidate identity changed"
  dieIf (files.lexists .ready || files.lexists .intent || files.lexists .done ||
      files.lexists .complete || files.candidate.isSome)
    "unfinished profile replacement evidence exists"
  let record : Record :=
    { schema := schema, phase := .ready, txid := txid, created := world.now, host := world.host,
      bootId := world.bootId, sourcePackage := args.sourcePackage,
      sourceVersion := args.sourceVersion,
      sourceFlavor := (packages.lookup args.sourcePackage).getD "",
      targetPackage := args.targetPackage, targetVersion := args.targetVersion,
      targetFlavor := (packages.lookup args.targetPackage).getD "", candidate := pinned,
      candidateSha256 := args.sha256, dpkg := child }
  return (record, .createCandidate txid ::
    .require (world.sha256 pinned = args.sha256) "pinned candidate digest changed" ::
      writeCreate .ready record)

/-- The second section of `execute`, behind the exit of its dpkg. -/
def recordDone (prepared : Record) (rc : Int) (files : Files) : Except String (List Effect) := do
  let active : Evidence := if files.lexists .intent then .intent else .ready
  dieIf (!files.lexists active) "dpkg ended without transaction evidence"
  let current ← readRecord (files.evidence active)
  dieIf (current.txid ≠ prepared.txid) "transaction identity changed"
  let done : Record :=
    { current with phase := .dpkgDone, dpkgCompleted := some world.now, dpkgExit := some rc }
  return writeCreate .done done ++ if active = .ready then [.unlink .ready] else []

def verifyPrerm (args : VerifyArgs) (ancestors : List Ancestor) (files : Files) :
    Except String (Record × List Effect) := do
  let record ← readRecord (files.evidence .ready)
  validateShape world record .ready []
  dieIf (record.bootId ≠ world.bootId) "profile replacement boot changed before consumption"
  dieIf (world.now - record.created < 0 || world.now - record.created > maxAge)
    "profile replacement authorization expired"
  validateCandidate world files record
  exactDpkgProcess ancestors record
  dieIf (record.sourcePackage ≠ args.sourcePackage || record.sourceVersion ≠ args.sourceVersion)
    "installed source profile does not match authorization"
  dieIf (args.action ∉ ["remove", "deconfigure"]) "maintainer-script action is invalid"
  let intent : Record := { record with phase := .prermIntent, consumed := some world.now }
  return (record, writeCreate .intent intent ++ [.unlink .ready])

def isSettlementOf (args : FinalizeArgs) (r : Record) : Bool :=
  r.txid = args.txid && r.targetPackage = args.targetPackage &&
    r.targetVersion = args.targetVersion && r.candidateSha256 = args.candidateSha256

/-- The part of `finalize` that writes COMPLETE. -/
def settle (args : FinalizeArgs) (files : Files) : Except String Record := do
  let record ← readRecord (files.evidence .intent)
  validateShape world record .prermIntent ["consumed"]
  dieIf (!isSettlementOf args record) "settlement identity does not match the transaction"
  dieIf (record.bootId ≠ world.bootId && !args.recovery)
    "boot changed; explicit recovery settlement is required"
  validateCandidate world files record
  dieIf (!isInstalledExact world record) "target package is not exactly installed"
  if files.lexists .done then do
    let done ← readRecord (files.evidence .done)
    validateShape world done .dpkgDone ["consumed", "dpkg_completed", "dpkg_exit"]
    dieIf (record.toIdentity ≠ done.toIdentity) "transaction evidence identity changed"
    dieIf (done.dpkgExit ≠ some 0) "dpkg completion is unsuccessful"
    return { done with phase := .complete, completed := some world.now,
                       settlement := some .dpkgExitZero }
  else do
    dieIf (!args.recovery) "dpkg completion is absent; explicit recovery is required"
    let alive ← executorIsAlive world record
    dieIf alive "the exact dpkg executor is still alive"
    return { record with phase := .complete, completed := some world.now,
                         settlement := some .recoveredExactTarget }

/-- The removal of the evidence and the move of COMPLETE into the archive. -/
def cleanup (txid : String) (files : Files) : List Effect :=
  (if files.candidate.isSome then [.unlinkCandidate] else []) ++
    (([.intent, .done, .ready] : List Evidence).filter files.lexists).map .unlink ++
    [.require (files.archive txid).isNone "transaction archive already exists", .archive txid]

def finalize (args : FinalizeArgs) (files : Files) : Except String (List Effect) := do
  dieIf (!isTxid args.txid) "settlement transaction identity is invalid"
  match files.archive args.txid, files.lexists .complete with
  | some record, false => do
    validateComplete world record
    dieIf (!isSettlementOf { args with txid := record.txid } record)
      "archived settlement identity does not match"
    dieIf (!isInstalledExact world record) "target package is not exactly installed"
    return []
  | _, true => do
    let record ← readRecord (files.evidence .complete)
    validateComplete world record
    dieIf (!isSettlementOf args record) "settlement identity does not match the transaction"
    return .require (isInstalledExact world record) "target package is not exactly installed" ::
      cleanup record.txid files
  | none, false => do
    let record ← settle world args files
    return writeCreate .complete record ++
      .require (isInstalledExact world record) "target package is not exactly installed" ::
        cleanup record.txid files

end

/-! ## Processes -/

/-- An executor between its two sections; its child has ended or not. -/
structure Executor where
  record : Record
  exit : Option Int

inductive Section
  | prepare (record : Record)
  | recordDone (record : Record)
  | verifyPrerm (record : Record)
  | finalize (args : FinalizeArgs)

def Section.txid : Section → String
  | .prepare record => record.txid
  | .recordDone record => record.txid
  | .verifyPrerm record => record.txid
  | .finalize args => args.txid

structure Critical where
  owner : Section
  rest : List Effect

/-- What happened, latest first. -/
inductive Event
  | forked (txid : String) (child : Child)
  | consumed (txid : String) (child : Child)
  | exited (txid : String) (child : Child) (rc : Int)
  | verified (txid : String)
deriving DecidableEq

/-- The lock is free when no section is critical. -/
structure State where
  files : Files
  critical : Option Critical
  executors : List Executor
  used : List String
  events : List Event

def State.initial : State where
  files := ⟨fun _ => .absent, none, fun _ => none⟩
  critical := none
  executors := []
  used := []
  events := []

/-- A maintainer script below the dpkg of the record consumes the authorization. -/
def logged (owner : Section) (e : Effect) (events : List Event) : List Event :=
  match owner, e with
  | .verifyPrerm record, .fill .intent intent => .consumed intent.txid record.dpkg :: events
  | _, _ => events

def State.leave (s : State) : Section → State
  | .prepare record => { s with critical := none, executors := ⟨record, none⟩ :: s.executors }
  | .verifyPrerm record => { s with critical := none, events := .verified record.txid :: s.events }
  | _ => { s with critical := none }

inductive Step : State → State → Prop
  | prepare {s : State} {world : World} {args : ExecuteArgs} {txid : String} {child : Child}
      {record : Record} {effects : List Effect} (hfree : s.critical = none) (hfresh : txid ∉ s.used)
      (h : prepare world args txid child s.files = .ok (record, effects)) :
      Step s { s with critical := some ⟨.prepare record, effects⟩, used := txid :: s.used,
                      events := .forked txid child :: s.events }
  | recordDone {s : State} {world : World} {before after : List Executor} {record : Record} {rc :
      Int}
      {effects : List Effect} (hfree : s.critical = none)
      (hexecutor : s.executors = before ++ ⟨record, some rc⟩ :: after)
      (h : recordDone world record rc s.files = .ok effects) :
      Step s { s with critical := some ⟨.recordDone record, effects⟩, executors := before ++ after }
  | verifyPrerm {s : State} {world : World} {args : VerifyArgs} {ancestors : List Ancestor}
      {record : Record} {effects : List Effect} (hfree : s.critical = none)
      (h : verifyPrerm world args ancestors s.files = .ok (record, effects)) :
      Step s { s with critical := some ⟨.verifyPrerm record, effects⟩ }
  | finalize {s : State} {world : World} {args : FinalizeArgs} {effects : List Effect}
      (hfree : s.critical = none) (h : finalize world args s.files = .ok effects) :
      Step s { s with critical := some ⟨.finalize args, effects⟩ }
  | effect {s : State} {owner : Section} {e : Effect} {rest : List Effect} {files : Files}
      (hcritical : s.critical = some ⟨owner, e :: rest⟩) (h : e.apply s.files = some files) :
      Step s { s with files := files, critical := some ⟨owner, rest⟩,
                      events := logged owner e s.events }
  | leave {s : State} {owner : Section} (hcritical : s.critical = some ⟨owner, []⟩) :
      Step s (s.leave owner)
  | stop {s : State} : Step s { s with critical := none }
  | exit {s : State} {before after : List Executor} {record : Record} (rc : Int)
      (hexecutor : s.executors = before ++ ⟨record, none⟩ :: after) :
      Step s { s with executors := before ++ ⟨record, some rc⟩ :: after,
                      events := .exited record.txid record.dpkg rc :: s.events }
  | vanish {s : State} {before after : List Executor} {executor : Executor}
      (hexecutor : s.executors = before ++ executor :: after) :
      Step s { s with executors := before ++ after }

def Reachable (s : State) : Prop := Relation.ReflTransGen Step State.initial s

end SharedLvmThin.ProfileReplacement
