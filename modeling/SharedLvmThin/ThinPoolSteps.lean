import SharedLvmThin.ThinPool

/-!
# What the parts of a pool operation can do

The checks change nothing. What issues commands is described by the commands it issues and
by what it has read when it issues them.
-/

namespace SharedLvmThin.Thin
open Perl KeyedLists Effects

variable {env : Env} {I : Session → Prop}

/-! ## Checks -/

theorem silent_ask (env : Env) (check : Check) : Silent (ask env check) := fun _ => rfl

theorem silent_cluster : Silent cluster := fun _ => rfl

theorem silent_readOwner (env : Env) : Silent (readOwner env) := by
  refine (silent_ask _ _).bind fun _ => ?_
  exact silent_cluster.bind fun c => silent_lift _

theorem silent_poolRuntimeState (env : Env) : Silent (poolRuntimeState env) := by
  refine (silent_ask _ _).bind fun _ => ?_
  refine silent_cluster.bind fun c => ?_
  exact (silent_refuse _ _).bind fun _ => silent_pure _

theorem silent_askPeers (env : Env) (peers : List String) : Silent (askPeers env peers) := by
  induction peers with
  | nil => exact silent_pure _
  | cons node rest ih =>
    refine Silent.bind ?_ fun item => ih.bind fun items => silent_pure _
    refine (silent_ask _ _).bind fun _ => ?_
    exact silent_cluster.bind fun c => silent_pure _

theorem silent_remoteMapperAudit (env : Env) (fenced : Option String) :
    Silent (remoteMapperAudit env fenced) := by
  refine (silent_refuse _ _).bind fun _ => ?_
  split
  . exact silent_pure _
  . refine (silent_ask _ _).bind fun _ => ?_
    refine (silent_ask _ _).bind fun _ => ?_
    refine (silent_lift _).bind fun peers => ?_
    refine (silent_askPeers env peers).bind fun evidence => ?_
    refine (silent_lift _).bind fun decision => ?_
    cases decision with
    | allPeersAbsent => exact silent_pure _
    | remoteConflict node => exact silent_throwMessage _

theorem silent_activationCommitBarrier (env : Env) (epoch : String) :
    Silent (activationCommitBarrier env epoch) := by
  refine (silent_refuse _ _).bind fun _ => ?_
  refine (silent_remoteMapperAudit env none).bind fun _ => ?_
  exact (silent_readOwner env).bind fun commit => silent_refuse _ _

theorem silent_verifyOwnedVolume (env : Env) (volname : String) (allow : Bool) :
    Silent (verifyOwnedVolume env volname allow) := by
  refine (silent_ask _ _).bind fun _ => ?_
  refine silent_cluster.bind fun c => ?_
  dsimp only
  cases c.pool with
  | none => exact silent_throwMessage _
  | some pool =>
    refine (silent_refuse _ _).bind fun _ => ?_
    refine (silent_ask _ _).bind fun _ => ?_
    refine (silent_refuse _ _).bind fun _ => ?_
    exact (silent_refuse _ _).bind fun _ => silent_refuse _ _

theorem silent_verifySnapshotPostcondition (env : Env) (snapvol : String) (mustExist : Bool) :
    Silent (verifySnapshotPostcondition env snapvol mustExist) := by
  refine (silent_ask _ _).bind fun _ => ?_
  refine silent_cluster.bind fun c => ?_
  cases mustExist with
  | true =>
    refine (silent_refuse _ _).bind fun _ => ?_
    exact (silent_refuse _ _).bind fun _ => silent_ask _ _
  | false => exact silent_refuse _ _

theorem silent_runtimeBefore (env : Env) : Silent (runtimeBefore env) := by
  unfold runtimeBefore
  split
  . exact silent_poolRuntimeState env
  . exact silent_pure _

theorem silent_guardOwner (env : Env) : Silent (guardOwner env) := by
  unfold guardOwner
  split
  . exact silent_readOwner env
  . exact silent_pure _

theorem silent_diskName (env : Env) (name : Option String) : Silent (diskName env name) := by
  unfold diskName
  split
  . exact silent_pure _
  . exact silent_lift _

theorem silent_waitGone (env : Env) (lv : String) (n : Nat) (state : RuntimeState) :
    Silent (waitGone env lv n state) := by
  induction n generalizing state with
  | zero => exact silent_pure _
  | succ n ih =>
    unfold waitGone
    split
    . exact (silent_poolRuntimeState env).bind fun state => ih state
    . exact silent_pure _

theorem silent_releaseGuard (env : Env) (owner : OwnerState) : Silent (releaseGuard env owner) :=
  Silent.whenever (silent_ask _ _) _

theorem silent_checkRemovalPool (env : Env) (pool : PoolInfo) :
    Silent (checkRemovalPool env pool) := by
  refine (silent_refuse _ _).bind fun _ => ?_
  refine (silent_ask _ _).bind fun _ => ?_
  refine (silent_refuse _ _).bind fun _ => ?_
  refine (silent_refuse _ _).bind fun _ => ?_
  refine (silent_lift _).bind fun owner => ?_
  exact (silent_refuse _ _).bind fun _ => silent_refuse _ _

theorem silent_checkRemoval (env : Env) (c : Cluster) : Silent (checkRemoval env c) := by
  unfold checkRemoval
  cases c.pool with
  | none => exact silent_pure _
  | some pool => exact silent_checkRemovalPool env pool

theorem silent_checkMember (env : Env) (c : Cluster) (lv : String) :
    Silent (checkMember env c lv) :=
  (silent_refuse _ _).bind fun _ => silent_refuse _ _

theorem silent_checkRollbackPool (env : Env) (c : Cluster) (volname snapvol : String) :
    Silent (checkRollbackPool env c volname snapvol) := by
  unfold checkRollbackPool
  cases c.pool with
  | none => exact silent_throwMessage _
  | some pool =>
    refine (silent_refuse _ _).bind fun _ => ?_
    refine (silent_refuse _ _).bind fun _ => ?_
    exact Silent.each (fun lv => (silent_refuse _ _).bind fun _ => silent_refuse _ _) _

theorem silent_rollbackFailed (env : Env) (message volname temporary : String)
    (atRename : Bool) : Silent (rollbackFailed env message volname temporary atRename) := by
  refine (silent_ask _ _).bind fun _ => ?_
  refine silent_cluster.bind fun c => ?_
  refine (Silent.each (fun lv => silent_refuse _ _) _).bind fun _ => ?_
  split
  . exact silent_pure _
  . exact silent_throwMessage _

/-! ## Operations that issue commands -/

theorem keeps_releasePoolOwner (h : ∀ tags, Keeps I (runCommand env (.delTags tags)))
    (foreignCleanupOk : Bool) : Keeps I (releasePoolOwner env foreignCleanupOk) := by
  refine (silent_ask _ _).keeps.bind fun _ => ?_
  refine (silent_readOwner env).keeps.bind fun state => ?_
  split
  . exact (silent_pure _).keeps
  . refine (silent_refuse _ _).keeps.bind fun _ => ?_
    cases state.owner with
    | none => exact (silent_pure _).keeps
    | some owner =>
      dsimp only
      split
      . split
        . exact (silent_pure _).keeps
        . exact (silent_throwMessage _).keeps
      . refine (h _).bind fun _ => ?_
        exact (silent_readOwner env).keeps.bind fun after => (silent_refuse _ _).keeps

end SharedLvmThin.Thin
