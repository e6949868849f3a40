import SharedLvmThin.ProfileReplacementRuns

/-! The commands that close a profile replacement. The finalizer settles a consumed transaction;
the update policy archives the evidence of a transaction whose package it has closed, or of one that
later closed packages have superseded. -/

namespace SharedLvmThin.ProfileReplacement
open Perl

/-! ## Performing a section to its end -/

def Effect.refusal : Effect → String
  | .require _ message => message
  | .createCandidate _ | .create _ _ => "File exists"
  | _ => "No such file or directory"

def performAll (files : Files) : List Effect → Except String Files
  | [] => .ok files
  | e :: rest =>
    match e.apply files with
    | some files' => performAll files' rest
    | none => .error e.refusal

/-! ## The update policy -/

/-- What a completed package transition keeps of the replacement it came from. -/
structure Proof where
  txid : String
  dpkgDone : String
deriving DecidableEq

/-- A completed FREEZE transition. -/
structure Transition where
  txid : String
  hostname : String
  bootId : String
  sourcePackage : String
  sourceVersion : String
  targetPackage : String
  targetVersion : String
  candidateSha256 : String
  replacementProof : Option Proof

structure Prepared where
  state : String
  txid : String
  sourcePackage : String
  sourceVersion : String

structure Snapshot where
  completed : Transition
  pendingProof : Option Proof
  active : Option Prepared

/-- `closed_profile_package_proof`, `digest` of the dpkg part of a record, and
`dpkg --compare-versions a ge b`. -/
structure Policy where
  proof : String → Except String Snapshot
  digest : Record → String
  atLeast : String → String → Bool

/-- `read_json` -/
def readJson : File → Except String (Option Record)
  | .absent => .ok none
  | .torn _ => .error "Expecting value: line 1 column 1 (char 0)"
  | .whole record => .ok (some record)

def Record.extra (r : Record) (name : String) : Option Int :=
  if name = "consumed" then r.consumed
  else if name = "dpkg_completed" then r.dpkgCompleted
  else if name = "dpkg_exit" then r.dpkgExit
  else none

def doneExtras : List String := ["consumed", "dpkg_completed", "dpkg_exit"]

def Evidence.phase : Evidence → Phase
  | .ready => .ready
  | .intent => .prermIntent
  | .done => .dpkgDone
  | .complete => .complete

def Evidence.extras : Evidence → List String
  | .ready => []
  | .intent => ["consumed"]
  | .done => doneExtras
  | .complete => doneExtras ++ ["completed", "settlement"]

section
variable (world : World) (policy : Policy)

/-- A fragment beside the record that is archived. -/
def checkFragment (files : Files) (reference : Record) (message : String) (e : Evidence) :
    Except String Unit := do
  match ← readJson (files.evidence e) with
  | none => .ok ()
  | some fragment => do
    validateShape world fragment e.phase e.extras
    dieIf (fragment.toIdentity ≠ reference.toIdentity) "transaction evidence identity changed"
    dieIf (e.extras.any fun name => fragment.extra name ≠ reference.extra name) message

/-- The record that proves a successful dpkg. -/
def provenDone (txid : String) (files : Files) : Except String Record := do
  let done ← readJson (files.evidence .done)
  let complete ← readJson (files.evidence .complete)
  match complete, done with
  | some complete, _ => do
    validateComplete world complete
    dieIf (complete.settlement ≠ some .dpkgExitZero)
      "cleanup completion is not successful DPKG_DONE proof"
    forEach [.intent, .done, .ready]
      (checkFragment world files complete "cleanup fragment identity changed")
    return complete
  | none, some done => do
    validateShape world done .dpkgDone doneExtras
    match ← readJson (files.evidence .intent) with
    | none => .error "replacement DPKG_DONE has no consumed PRERM_INTENT"
    | some intent => do
      validateShape world intent .prermIntent ["consumed"]
      dieIf (intent.toIdentity ≠ done.toIdentity) "transaction evidence identity changed"
      dieIf (done.consumed ≠ intent.consumed) "replacement consumed identity changed"
      return done
  | none, none =>
    match files.archive txid with
    | none => .error "cross-profile settlement has no DPKG_DONE proof"
    | some archived => do
      validateComplete world archived
      dieIf (archived.settlement ≠ some .dpkgExitZero)
        "recovered target alone is not successful DPKG_DONE proof"
      return archived

/-- `replacement_proof` -/
def replacementProof (receipt : Transition) (txid : String) (files : Files) :
    Except String Proof := do
  dieIf (receipt.sourcePackage = receipt.targetPackage)
    "same-profile settlement cannot consume replacement evidence"
  dieIf (!isTxid txid) "cross-profile settlement requires exact replacement txid"
  let done ← provenDone world txid files
  dieIf (done.txid ≠ txid || done.host ≠ receipt.hostname || done.bootId ≠ receipt.bootId ||
      done.sourcePackage ≠ receipt.sourcePackage || done.sourceVersion ≠ receipt.sourceVersion ||
      done.targetPackage ≠ receipt.targetPackage || done.targetVersion ≠ receipt.targetVersion ||
      done.candidateSha256 ≠ receipt.candidateSha256 || done.dpkgExit ≠ some 0)
    "replacement DPKG_DONE does not match the exact FREEZE transaction"
  return ⟨txid, policy.digest done⟩

/-- `read_json(COMPLETE) or read_json(DONE) or read_json(ARCHIVE / txid)` -/
def reference (txid : String) (files : Files) : Except String Record := do
  match ← readJson (files.evidence .complete) with
  | some complete => return complete
  | none =>
    match ← readJson (files.evidence .done) with
    | some done => return done
    | none =>
      match files.archive txid with
      | some archived => return archived
      | none => .error "'NoneType' object is not subscriptable"

def exactArgs (completed : Transition) (txid : String) : FinalizeArgs where
  targetPackage := completed.targetPackage
  targetVersion := completed.targetVersion
  candidateSha256 := completed.candidateSha256
  txid := txid
  recovery := true

/-- The closure that is bound to the completed package. -/
def closeExact (snapshot : Snapshot) (txid : String) (files : Files) : Except String Files := do
  let proof ← replacementProof world policy snapshot.completed txid files
  dieIf (some proof ≠ snapshot.completed.replacementProof || some proof ≠ snapshot.pendingProof)
    "profile evidence closure is not bound to the completed package"
  let reference ← reference txid files
  let alive ← executorIsAlive world reference
  dieIf alive "profile evidence closure executor is still alive"
  forEach [.ready, .intent, .done] fun e => do
    match ← readJson (files.evidence e) with
    | none => .ok ()
    | some record => do
      validateShape world record e.phase e.extras
      dieIf (record.txid ≠ txid) "foreign profile replacement fragment blocks cleanup"
      dieIf (record.toIdentity ≠ reference.toIdentity) "transaction evidence identity changed"
  let effects ← finalize world (exactArgs snapshot.completed txid) files
  let after ← performAll files effects
  let archived ← replacementProof world policy snapshot.completed txid after
  dieIf (archived ≠ proof) "archived replacement proof changed"
  return after

def isOrdered (r : Record) : Bool :=
  match r.consumed, r.dpkgCompleted with
  | some consumed, some completed => r.created ≤ consumed && consumed ≤ completed
  | _, _ => false

/-- The next transition starts from the current package. -/
def isNext (completed : Transition) (record : Record) (active : Prepared) : Bool :=
  active.state = "PREPARED" && active.sourcePackage = completed.targetPackage &&
    active.sourceVersion = completed.targetVersion &&
    record.targetPackage = completed.targetPackage

/-- `archive_superseded_profile_evidence`. The receipt that it leaves has a verdict and a proof of
its own, for which the records of the finalizer have no field. -/
def archiveSuperseded (snapshot : Snapshot) (txid : String) (files : Files) :
    Except String (List Effect) := do
  match ← readJson (files.evidence .complete), files.archive txid with
  | some _, some _ => .error "ambiguous superseded cleanup completion"
  | some receipt, none | none, some receipt => do
    validateShape world receipt .complete (Evidence.complete.extras ++ ["metadata_cleanup_proof"])
    .error "superseded cleanup receipt proof changed"
  | none, none =>
    match ← readJson (files.evidence .done) with
    | none => .error "superseded cleanup requires exact successful DPKG_DONE"
    | some record => do
      validateShape world record .dpkgDone doneExtras
      dieIf (record.txid ≠ txid || record.dpkgExit ≠ some 0 || !isOrdered record)
        "superseded cleanup dpkg identity/outcome differs"
      dieIf (!snapshot.active.any (isNext snapshot.completed record))
        "superseded cleanup requires exact current-profile next PREPARED"
      dieIf (!policy.atLeast snapshot.completed.targetVersion record.targetVersion)
        "superseded cleanup refuses downgrade or unavailable version ordering"
      let alive ← executorIsAlive world record
      dieIf alive "superseded cleanup executor is still alive"
      dieIf ((← readJson (files.evidence .intent)) = none)
        "superseded DPKG_DONE requires exact consumed INTENT"
      forEach [.intent, .done, .ready]
        (checkFragment world files record "superseded cleanup fragment proof changed")
      validateCandidate world files record
      return writeCreate .complete
        { record with phase := .complete, completed := some world.now } ++ cleanup txid files

/-! ## Closing -/

inductive Command
  | finalize (args : FinalizeArgs)
  | finalizeClosedProfileEvidence (packageTxid txid : String) (superseded : Bool)

/-- A command that nothing interrupts. -/
def Command.run (files : Files) : Command → Except String Files
  | .finalize args => do
    let effects ← ProfileReplacement.finalize world args files
    performAll files effects
  | .finalizeClosedProfileEvidence packageTxid txid superseded => do
    dieIf (!isTxid packageTxid || !isTxid txid)
      "profile evidence closure transaction identity is invalid"
    let snapshot ← policy.proof packageTxid
    if superseded then do
      let effects ← archiveSuperseded world policy snapshot txid files
      performAll files effects
    else
      closeExact world policy snapshot txid files

def runAll (files : Files) : List Command → Except String Files
  | [] => .ok files
  | command :: rest => do
    let files ← command.run world policy files
    runAll files rest

/-- Nothing is left that refuses the next `prepare`. -/
structure Closed (files : Files) : Prop where
  evidence : ∀ e, files.evidence e = .absent
  candidate : files.candidate = none

def Closable (files : Files) : Prop :=
  ∃ commands after, runAll world policy files commands = .ok after ∧ Closed after

end

/-! ## What can be closed -/

/-- A COMPLETE record, whose target is still exactly installed. -/
structure Completes (world : World) (files : Files) (record : Record) : Prop where
  whole : files.evidence .complete = .whole record
  valid : validateComplete world record = .ok ()
  installed : isInstalledExact world record = true

/-- A consumed transaction whose dpkg left the target exactly installed and did not report a
failure. -/
structure Settles (world : World) (files : Files) (intent : Record) : Prop where
  incomplete : files.evidence .complete = .absent
  whole : files.evidence .intent = .whole intent
  shape : validateShape world intent .prermIntent ["consumed"] = .ok ()
  candidate : validateCandidate world files intent = .ok ()
  installed : isInstalledExact world intent = true
  exit : files.evidence .done = .absent ∨ ∃ done, files.evidence .done = .whole done ∧
    validateShape world done .dpkgDone doneExtras = .ok () ∧
    intent.toIdentity = done.toIdentity ∧ done.dpkgExit = some 0

/-- A successful transaction that later closed packages of its profile have superseded. -/
structure Supersedes (world : World) (policy : Policy) (files : Files) (packageTxid : String)
    (snapshot : Snapshot) (record : Record) : Prop where
  incomplete : files.evidence .complete = .absent
  whole : files.evidence .done = .whole record
  shape : validateShape world record .dpkgDone doneExtras = .ok ()
  exit : record.dpkgExit = some 0
  ordered : isOrdered record = true
  consumed : files.evidence .intent ≠ .absent
  fragments : ∀ e ∈ [Evidence.intent, .done, .ready],
    checkFragment world files record "superseded cleanup fragment proof changed" e = .ok ()
  candidate : validateCandidate world files record = .ok ()
  package : isTxid packageTxid = true
  proof : policy.proof packageTxid = .ok snapshot
  next : snapshot.active.any (isNext snapshot.completed record) = true
  version : policy.atLeast snapshot.completed.targetVersion record.targetVersion = true

end SharedLvmThin.ProfileReplacement
