import SharedLvmThin.ThickAnchorProgress
import SharedLvmThin.ThickTagRoundTrip
import SharedLvmThin.GuardStateRuns
import SharedLvmThin.GuardEngineRuns
import SharedLvmThin.DestroyOrder
import SharedLvmThin.DestroyJournalRuns
import SharedLvmThin.DestroyJournalBudget
import SharedLvmThin.StoragePlanExact
import SharedLvmThin.PlanV3Compose
import SharedLvmThin.ExecutorReservationRuns
import SharedLvmThin.VgReserve
import SharedLvmThin.UpdatePolicyLanding
import SharedLvmThin.StorageConfigRuns
import SharedLvmThin.ThinTakeover
import SharedLvmThin.ThickSnapshotExact
import SharedLvmThin.GuardSummary
import SharedLvmThin.DestroyFinalization
import SharedLvmThin.StoragePlanOrder
import SharedLvmThin.UpdatePolicyGate
import SharedLvmThin.CompatAgreement
import SharedLvmThin.ProfileClosureRuns
import SharedLvmThin.ThickCloneGeometry
import SharedLvmThin.GuardDaemonRuns
import SharedLvmThin.ThickDestroyConfig
import SharedLvmThin.DstateEvidence
import SharedLvmThin.BackingGraph
import SharedLvmThin.FinalizingCompletion
import SharedLvmThin.StrictJsonExact
import SharedLvmThin.ThinSafetyPromise
import SharedLvmThin.GuardInventory
import SharedLvmThin.StoragePlanOrigin
import SharedLvmThin.UpdateProtocolFaithful
import SharedLvmThin.BootRequalificationRuns
import SharedLvmThin.ManualAuthorizationRuns
import SharedLvmThin.HydrationWait
import SharedLvmThin.SnapshotVerdict
import SharedLvmThin.BridgeAdmissionRuns
import SharedLvmThin.ThickVolumeDeleteRetries
import SharedLvmThin.GuardClientRuns
import SharedLvmThin.DestroyLifecycleRuns
