import SharedLvmThin.PerlText

/-! Admission of a Thin pool under the guard. `evaluate_guard_activation` reads the
collected evidence as scalars: presence and shape are checked with patterns first, truth
afterwards. -/

namespace SharedLvmThin.Guard
open Perl

inductive EvidenceField
  | journalIntegrity | quorum | storageIdentity | localRuntimeAbsent | remoteRuntimeAbsent
  | watchdogAvailable | watchdogArmed | ownerEpochExact | predecessorFenced
  | predecessor | requestedOwner
deriving DecidableEq

def EvidenceField.name : EvidenceField → String
  | .journalIntegrity => "journal_integrity"
  | .quorum => "quorum"
  | .storageIdentity => "storage_identity"
  | .localRuntimeAbsent => "local_runtime_absent"
  | .remoteRuntimeAbsent => "remote_runtime_absent"
  | .watchdogAvailable => "watchdog_available"
  | .watchdogArmed => "watchdog_armed"
  | .ownerEpochExact => "owner_epoch_exact"
  | .predecessorFenced => "predecessor_fenced"
  | .predecessor => "predecessor"
  | .requestedOwner => "requested_owner"

abbrev Evidence := EvidenceField → Option String

inductive AdmissionState
  | recoveryRequired | refused | waitFence | admitted
deriving DecidableEq

inductive AdmissionAction
  | none | activateExclusive
deriving DecidableEq

structure Decision where
  safe : Bool
  state : AdmissionState
  action : AdmissionAction
  reason : String

def refuseIf (bad : Bool) (state : AdmissionState) (reason : String) :
    Except (AdmissionState × String) Unit :=
  if bad then .error (state, reason) else .ok ()

@[simp] theorem refuseIf_eq_ok {bad : Bool} {state : AdmissionState} {reason : String} {u : Unit} :
    refuseIf bad state reason = .ok u ↔ bad = false := by
  cases bad <;> simp [refuseIf]

def flagFields : List EvidenceField :=
  [.journalIntegrity, .quorum, .storageIdentity, .localRuntimeAbsent, .remoteRuntimeAbsent,
    .watchdogAvailable, .watchdogArmed, .ownerEpochExact, .predecessorFenced]

def provenFields : List EvidenceField :=
  [.journalIntegrity, .quorum, .storageIdentity, .ownerEpochExact]

/-- The checks of `evaluate_guard_activation` in order; the first failing one decides. -/
def checkEvidence (e : Evidence) : Except (AdmissionState × String) Unit := do
  forEach flagFields fun f =>
    refuseIf (!isOneOf ["0", "1"] (e f)) .recoveryRequired
      ("missing or malformed evidence: " ++ f.name)
  refuseIf (!isOneOf ["none", "self", "other"] (e .predecessor)) .recoveryRequired
    "invalid predecessor state"
  refuseIf (!isOneOf ["self", "other"] (e .requestedOwner)) .recoveryRequired
    "invalid requested owner relation"
  forEach provenFields fun f =>
    refuseIf (!truthy (e f)) .recoveryRequired (f.name ++ " is not positively proven")
  refuseIf ((e .requestedOwner).getD "" ≠ "self") .refused
    "lease request does not name this node"
  refuseIf (!truthy (e .localRuntimeAbsent)) .refused
    "local thin-pool runtime already exists before admission"
  refuseIf (!truthy (e .remoteRuntimeAbsent)) .refused
    "peer thin-pool runtime absence is unproven"
  refuseIf (!truthy (e .watchdogAvailable)) .refused
    "PVE watchdog-mux protection is unavailable"
  refuseIf ((e .predecessor).getD "" = "other" ∧ !truthy (e .predecessorFenced)) .waitFence
    "previous owner epoch is not positively fenced; activation remains forbidden"
  refuseIf (!truthy (e .watchdogArmed)) .refused
    "watchdog client is not armed before activation"

def evaluateGuardActivation (e : Evidence) : Decision :=
  match checkEvidence e with
  | .error (state, reason) => ⟨false, state, .none, reason⟩
  | .ok () => ⟨true, .admitted, .activateExclusive,
      "quorum epoch, storage identity, remote absence and fencing evidence are exact"⟩

theorem evaluateGuardActivation_safe_iff {e : Evidence} :
    (evaluateGuardActivation e).safe = true ↔ checkEvidence e = .ok () := by
  unfold evaluateGuardActivation
  cases checkEvidence e with
  | error r => simp
  | ok u => simp

theorem action_of_safe {e : Evidence} (h : (evaluateGuardActivation e).safe = true) :
    (evaluateGuardActivation e).action = .activateExclusive := by
  have hok := evaluateGuardActivation_safe_iff.mp h
  simp [evaluateGuardActivation, hok]

/-- No admission without proven journal integrity. -/
theorem journal_of_safe {e : Evidence} (h : (evaluateGuardActivation e).safe = true) :
    truthy (e .journalIntegrity) = true := by
  have hok := evaluateGuardActivation_safe_iff.mp h
  simp only [checkEvidence, bind_eq_ok, forEach_eq_ok, refuseIf_eq_ok] at hok
  obtain ⟨-, -, -, -, -, -, -, hproven, -⟩ := hok
  simpa using hproven .journalIntegrity (by decide)

end SharedLvmThin.Guard
