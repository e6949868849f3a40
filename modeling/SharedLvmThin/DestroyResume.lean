import SharedLvmThin.FinalizingReaders
import SharedLvmThin.DestroyFinalization

/-! The two ways on from a destroy that stopped while it was finalizing. One repeats the
finalization under the durable receipt; the other finds everything absent already and only
completes the journal. Neither loads or calls the native destroy. -/

namespace SharedLvmThin.VMDestroy
open Perl Effects

/-! ## The durable receipt -/

/-- The core of a receipt, as it is compared. -/
def coreText (receipt : Value) : Except String String :=
  (Value.hash (DestroyJournal.core.map fun name => (name, receipt.get name))).canonical

/-- `_same_receipt_core` -/
def sameReceiptCore (left right : Value) : Except String Bool := do
  let left ← coreText left
  let right ← coreText right
  return left = right

/-- What the loop over the records has found. -/
structure Recovered where
  storage : Option Value
  finalizing : Option Value
  latest : Value

def recoverRecord (vmid txid : String) (found : Recovered) (entry : Value) :
    Except String Recovered := do
  dieIf (!(entry.isHash && (entry.get "receipt").isHash)) "VM destroy journal record is malformed\n"
  let receipt := entry.get "receipt"
  dieIf ((receipt.get "txid").text ≠ txid || (receipt.get "vmid").text ≠ vmid)
    "VM destroy journal identity mismatch\n"
  let stage := entry.get "stage"
  return {
    storage := if stage.text = "STORAGE_ABSENT" then some receipt else found.storage
    finalizing := if stage.text = "FINALIZING" then some receipt else found.finalizing
    latest := stage }

def recoverRecords (vmid txid : String) (found : Recovered) : List Value → Except String Recovered
  | [] => .ok found
  | entry :: rest => do
    let found ← recoverRecord vmid txid found entry
    recoverRecords vmid txid found rest

/-- The FINALIZING receipt of a history that may be resumed. -/
def resumableReceipt (history : Value) (vmid txid : String) : Except String Value := do
  dieIf (!history.isHash || (history.get "durable").text ≠ "1" ||
    !(history.get "records").isArray) "VM destroy journal history is not durably confirmed\n"
  let found ← recoverRecords vmid txid ⟨none, none, .undef⟩
    (FinalizingReaders.items (history.get "records"))
  match found.storage, found.finalizing with
  | some storage, some finalizing => do
    let same ← sameReceiptCore storage finalizing
    dieIf (!same) "VM destroy exact STORAGE_ABSENT/FINALIZING receipt is missing\n"
    dieIf (found.latest.text ≠ "FINALIZING")
      "VM destroy is not in a recoverable finalization state\n"
    finalizing.copy
  | _, _ => .error "VM destroy exact STORAGE_ABSENT/FINALIZING receipt is missing\n"

/-! ## Resuming -/

structure ResumeEnv extends Env where
  readJournal : Except String Value
  observeFirst : Except String Value

/-- `$proof->{object_ids} // []` -/
def objectIdsOf (proof : Value) : Value :=
  if (proof.get "object_ids").isDefined then proof.get "object_ids" else .array []

def bareZombie : Value := .hash [("lock", .str "destroyed")]

/-- Runtime, plan and storage absence are what they were when the receipt was written. -/
def reprove (env : ResumeEnv) (receipt : Value) : Exec Unit := do
  let runtime ← ask env.verifyRuntime
  emit (.runtime runtime)
  require runtime.isHash "VM destroy runtime/contract changed before resume\n"
  let text ← ask runtime.canonical
  let expected ← ask (receipt.get "runtime").canonical
  require (text = expected) "VM destroy runtime/contract changed before resume\n"
  let _ ← ask env.storageConfig
  let objectIds ← ask env.validatePlan
  let proof ← ask env.observePlan
  require (proof.isHash && (proof.get "status").text = "ABSENT" &&
    (proof.get "foreign_unchanged").text = "YES")
    "VM destroy storage absence is not reproducible during resume\n"
  let text ← ask (objectIdsOf proof).canonical
  let expected ← ask (strings objectIds).canonical
  require (text = expected) "VM destroy storage absence is not reproducible during resume\n"

/-- The configuration that may still go: the one whose digest the receipt carries. -/
def resumedZombie (env : ResumeEnv) (vmid : String) (receipt : Value) : Exec Value := do
  let state ← finalizationState env.observeFirst vmid receipt
  if (state.get "config").text = "PRESENT" then do
    let zombie ← ask (env.loadConfig .zombie)
    let exact ← ask (isZombie zombie)
    require exact "VM destroy exact zombie config is absent during resume\n"
    let digest ← ask (digestOf zombie)
    require (((receipt.get "evidence").get "zombie_config_sha256").text = digest)
      "VM destroy zombie digest does not match durable receipt\n"
    return zombie
  else return bareZombie

/-- The path after a failed repetition: one more FINALIZING record. -/
def recordResumeFailure (env : ResumeEnv) (receipt : Value) (error : String) : Exec Value := do
  let s ← read
  let journaled ← attempt (record env.journalFailure .finalizing
    ((((withEvidence receipt s).set "error" (.str error)).set "resume" (.num "1")).set
      "recovery_required" (.num "1")))
  let journalError := match journaled with
    | .ok _ => ""
    | .error message => message
  die ("VM destroy FINALIZING resume remains blocked; no redispatch: " ++ error ++ journalError)

/-- Everything after the reproof. -/
def repeatFinalization (env : ResumeEnv) (vmid txid : String) (receipt : Value) : Exec Value := do
  let zombie ← resumedZombie env vmid receipt
  let evidence ← ask (receipt.get "evidence").copy
  update fun s => { s with evidence }
  let s ← read
  record (env.journal .finalizing) .finalizing
    (((withEvidence receipt s).set "resume" (.num "1")).set "recovery_required" (.num "0"))
  match ← attempt (runFinalization env.toEnv vmid receipt zombie) with
  | .ok _ => do
    let s ← read
    record (env.journal .complete) .complete ((withEvidence receipt s).set "resumed" (.num "1"))
    return .hash [("status", .str "COMPLETE"), ("txid", .str txid), ("vmid", numberOf vmid),
      ("resumed", .num "1")]
  | .error error => recordResumeFailure env receipt error

/-- `resume_finalizing` -/
def resumeFinalizing (env : ResumeEnv) (vmid txid : Option String) : Exec Value := do
  require env.root "VM destroy requires root\n"
  require (vmid.any isVmid && txid.any isTxid) "invalid VM destroy identity\n"
  let vmid := vmid.getD ""
  let txid := txid.getD ""
  ask env.loadPve
  ask env.cfsUpdate
  ask env.lockConfig
  let history ← ask env.readJournal
  let receipt ← ask (resumableReceipt history vmid txid)
  reprove env receipt
  repeatFinalization env vmid txid receipt

/-! ## Completing -/

structure CompletionEnv where
  root : Bool
  cfsUpdate : Except String Unit
  lockConfig : Except String Unit
  readJournal : Except String Value
  verifyAbsent : Except String Value
  readJournalAgain : Except String Value
  verifyAbsentAgain : Except String Value
  journalCas : Except String Value

/-- `/\A[1-9][0-9]{0,8}\z/` -/
def isCompletionVmid (vmid : String) : Bool :=
  match vmid.toList with
  | [] => false
  | c :: rest => '1' ≤ c && c ≤ '9' && rest.all Char.isDigit && rest.length ≤ 8

def recoveryNames : String := "context_sha256,journal_head_sha256,txid"

/-- `_completion_observation` -/
def completionObservation (proof context : Value) (head txid : String) : Except String Unit := do
  let recovery := proof.get "recovery"
  dieIf (!proof.isHash || (proof.get "status").text ≠ "OBSERVED" ||
    (proof.get "purpose").text ≠ "FINALIZATION_OBSERVATION_ONLY" ||
    (proof.get "authority").text ≠ "NONE" || !recovery.isHash ||
    DestroyJournal.fieldNames recovery ≠ recoveryNames || (recovery.get "txid").text ≠ txid ||
    (recovery.get "journal_head_sha256").text ≠ head)
    "VM destroy completion requires absent-only OBSERVED proof\n"
  let digest ← DestroyJournal.perlDigest context
  dieIf ((recovery.get "context_sha256").text ≠ digest)
    "VM destroy completion requires absent-only OBSERVED proof\n"
  let runtime ← proof.copy
  let comparable := (Value.hash (runtime.fields.filter fun field =>
    field.1 ∉ ["purpose", "recovery"])).set "status" (.str "QUALIFIED")
  let text ← comparable.canonical
  let expected ← ((context.get "receipt").get "runtime").canonical
  dieIf (text ≠ expected) "VM destroy completion runtime identity mismatch\n"

/-- One absent-only proof under the head of the journal. -/
def observeAbsent (answer : Except String Value) (context : Value) (head txid : String) :
    Exec Value := do
  let proof ← ask answer
  ask (completionObservation proof context head txid)
  emit (.runtime proof)
  ask proof.copy

/-- The receipt of the completing record. -/
def completedReceipt (history after : Value) : Except String Value := do
  let last := (FinalizingReaders.items (history.get "records")).getLast?.getD .undef
  let receipt ← (last.get "receipt").copy
  return (receipt.set "evidence" ((receipt.get "evidence").set "journal_only_completion" after)).set
    "resumed" (.num "1")

/-- `complete_finalizing_absent` -/
def completeFinalizingAbsent (env : CompletionEnv) (vmid txid : Option String) : Exec Value := do
  require env.root "VM destroy requires root\n"
  require (vmid.any isCompletionVmid && txid.any DestroyJournal.isRequestId)
    "invalid VM destroy completion identity\n"
  let vmid := vmid.getD ""
  let txid := txid.getD ""
  ask env.cfsUpdate
  ask env.lockConfig
  let history ← ask env.readJournal
  let context ← ask (FinalizingReaders.completionContext history vmid txid)
  let history ← ask history.copy
  let head := (history.get "last_sha256").text
  let before ← observeAbsent env.verifyAbsent context head txid
  let again ← ask env.readJournalAgain
  let _ ← ask (FinalizingReaders.completionContext again vmid txid)
  let text ← ask again.canonical
  let expected ← ask history.canonical
  require (text = expected) "VM destroy completion journal changed during bracket\n"
  let after ← observeAbsent env.verifyAbsentAgain context head txid
  let text ← ask after.canonical
  let expected ← ask before.canonical
  require (text = expected) "VM destroy completion observation changed during bracket\n"
  let receipt ← ask (completedReceipt history after)
  emit (.published .complete receipt (isAck env.journalCas))
  let _ ← ask env.journalCas
  require (isAck env.journalCas)
    "VM destroy journal-only COMPLETE acknowledgement is UNKNOWN; do not retry\n"
  return .hash [("status", .str "COMPLETE"), ("txid", .str txid), ("vmid", numberOf vmid),
    ("journal_only", .num "1"), ("previous_head_sha256", .str head)]

end SharedLvmThin.VMDestroy
