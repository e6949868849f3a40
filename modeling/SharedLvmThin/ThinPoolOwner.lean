import SharedLvmThin.ThinPoolSteps

/-!
# Who changes a thin pool

Allocation and removal check the recorded owner themselves and a rollback establishes it by
activating the pool first. Resize and the two snapshot operations check the storage's
ownership of the pool and never the node's.
-/

namespace SharedLvmThin.Thin
open Perl KeyedLists Effects

variable {env : Env} {I : Session → Prop}

/-- The recorded owner lets the node change the pool. -/
def Allowed (node : String) (tags : List String) : Prop :=
  ∃ st, ownerStateFromTags tags = .ok st ∧ (st.owner = none ∨ st.owner = some node)

/-- Every change so far was made under an owner tag that allows it. -/
def Clean (env : Env) (s : Session) : Prop :=
  ∀ i ∈ s.issued, i.command.mutates = true → Allowed env.node i.tags

def Good (env : Env) (s : Session) : Prop := Clean env s ∧ Allowed env.node s.cluster.tags

/-! ## Commands -/

theorem runCommand_issued (env : Env) (command : Command) (s : Session) :
    (runCommand env command s).1.issued = s.issued ++ [⟨command, s.cluster.tags⟩] := rfl

theorem clean_runCommand {command : Command} {s : Session} (h : Clean env s)
    (hcommand : command.mutates = true → Allowed env.node s.cluster.tags) :
    Clean env (runCommand env command s).1 := by
  intro i hi hm
  rw [runCommand_issued, List.mem_append, List.mem_singleton] at hi
  rcases hi with hi | rfl
  . exact h i hi hm
  . exact hcommand hm

theorem triple_runCommand {P Q E : Session → Prop} {command : Command}
    (h : ∀ s, P s → Q (runCommand env command s).1 ∧ E (runCommand env command s).1) :
    Triple P (runCommand env command) (fun _ => Q) E := by
  intro s hs
  have h := h s hs
  unfold Outcome
  split
  . rename_i s' a hr
    rw [hr] at h
    exact h.1
  . rename_i s' message hr
    rw [hr] at h
    exact h.2

theorem keeps_runCommand {command : Command} (h : ∀ s, I s → I (runCommand env command s).1) :
    Keeps I (runCommand env command) := triple_runCommand fun s hs => ⟨h s hs, h s hs⟩

theorem clean_quiet {command : Command} (h : command.mutates = false) :
    Keeps (Clean env) (runCommand env command) :=
  keeps_runCommand fun _ hs => clean_runCommand hs fun hm => by simp [h] at hm

/-- The commands that leave the pool and its tags in place. -/
def Command.keepsTags : Command → Bool
  | .addTags _ | .delTags _ | .createPool | .removePool => false
  | _ => true

theorem tags_setLvType (c : Cluster) (lvType : String) : (c.setLvType lvType).tags = c.tags := by
  unfold Cluster.tags Cluster.setLvType
  cases c.pool <;> rfl

theorem tags_apply {command : Command} (h : command.keepsTags = true) (pool node : String)
    (keepsPool : Bool) (c : Cluster) : (command.apply pool node keepsPool c).tags = c.tags := by
  cases command with
  | addTags tags => simp [Command.keepsTags] at h
  | delTags tags => simp [Command.keepsTags] at h
  | createPool => simp [Command.keepsTags] at h
  | removePool => simp [Command.keepsTags] at h
  | convertPool => exact tags_setLvType c "t"
  | deactivatePool =>
    simp only [Command.apply]
    split <;> rfl
  | _ => rfl

theorem tags_runCommand {command : Command} (h : command.keepsTags = true) (s : Session) :
    (runCommand env command s).1.cluster.tags = s.cluster.tags := by
  simp only [runCommand]
  split
  . exact tags_apply h ..
  . rfl

theorem good_runCommand {command : Command} (h : command.keepsTags = true) :
    Keeps (Good env) (runCommand env command) := by
  apply keeps_runCommand
  intro s hs
  refine ⟨clean_runCommand hs.1 fun _ => hs.2, ?_⟩
  rw [tags_runCommand h]
  exact hs.2

/-! ## Activation and deactivation -/

section Tags

/-- The commands of the ownership protocol. -/
def Command.retags : Command → Bool
  | .addTags _ | .delTags _ => true
  | _ => false

theorem mutates_of_retags {command : Command} (h : command.retags = true) :
    command.mutates = false := by
  cases command <;> simp_all [Command.retags, Command.mutates]

variable (htags : ∀ command : Command, command.retags = true → Keeps I (runCommand env command))
include htags

theorem keeps_claimUnowned (audited : Bool) : Keeps I (claimUnowned env audited) := by
  refine (silent_poolRuntimeState env).keeps.bind fun runtime => ?_
  refine (silent_refuse _ _).keeps.bind fun _ => ?_
  refine (Silent.whenever (silent_remoteMapperAudit env none) _).keeps.bind fun _ => ?_
  refine (htags _ rfl).bind fun _ => ?_
  refine (silent_readOwner env).keeps.bind fun after => ?_
  exact (silent_refuse _ _).keeps.bind fun _ => (silent_pure _).keeps

theorem keeps_takeOver (owner : String) (state : OwnerState) :
    Keeps I (takeOver env owner state) := by
  refine (silent_refuse _ _).keeps.bind fun _ => ?_
  refine (silent_lift _).keeps.bind fun _ => ?_
  refine (silent_remoteMapperAudit env _).keeps.bind fun _ => ?_
  refine (htags _ rfl).bind fun _ => ?_
  exact (silent_readOwner env).keeps.bind fun after => (silent_refuse _ _).keeps

theorem keeps_claimPoolOwner : Keeps I (claimPoolOwner env) := by
  refine (silent_ask _ _).keeps.bind fun _ => ?_
  refine (silent_readOwner env).keeps.bind fun state => ?_
  refine (silent_refuse _ _).keeps.bind fun _ => ?_
  cases state.owner with
  | none => exact keeps_claimUnowned htags false
  | some owner =>
    dsimp only
    split
    . exact (silent_remoteMapperAudit env none).keeps.bind fun _ => (silent_pure _).keeps
    . split
      . exact (keeps_takeOver htags owner state).bind fun _ => keeps_claimUnowned htags true
      . exact (silent_throwMessage _).keeps

theorem keeps_prepareGuard : Keeps I (prepareGuard env) := by
  refine (silent_ask _ _).keeps.bind fun _ => ?_
  refine (silent_ask _ _).keeps.attempt.bind fun answer => ?_
  cases answer with
  | ok _ => exact (silent_pure _).keeps
  | error message =>
    refine (keeps_releasePoolOwner (fun tags => htags _ rfl) false).bind fun _ => ?_
    exact (silent_throwMessage _).keeps

end Tags

section Quiet

variable (hquiet : ∀ command : Command, command.mutates = false → Keeps I (runCommand env command))
include hquiet

theorem keeps_activateThinVolumeLocked (volname : String) (snapname : Option String) :
    Keeps I (activateThinVolumeLocked env volname snapname) := by
  refine (silent_ask _ _).keeps.bind fun _ => ?_
  refine (silent_verifyOwnedVolume env volname false).keeps.bind fun _ => ?_
  refine (silent_ask _ _).keeps.bind fun _ => ?_
  refine (silent_ask _ _).keeps.bind fun _ => ?_
  refine (silent_runtimeBefore env).keeps.bind fun before => ?_
  have htags : ∀ command : Command, command.retags = true → Keeps I (runCommand env command) :=
    fun command h => hquiet command (mutates_of_retags h)
  refine (keeps_claimPoolOwner htags).bind fun epoch => ?_
  refine (Keeps.whenever (keeps_prepareGuard htags) _).bind fun _ => ?_
  refine (silent_activationCommitBarrier env epoch).keeps.bind fun _ => ?_
  exact hquiet _ rfl

theorem keeps_deactivateIdlePool (owner : OwnerState) (state : RuntimeState) :
    Keeps I (deactivateIdlePool env owner state) := by
  refine (Keeps.whenever (hquiet _ rfl) _).bind fun _ => ?_
  refine (silent_poolRuntimeState env).keeps.bind fun after => ?_
  refine (silent_refuse _ _).keeps.bind fun _ => ?_
  refine (silent_refuse _ _).keeps.bind fun _ => ?_
  refine (keeps_releasePoolOwner (fun tags => hquiet _ rfl) true).bind fun _ => ?_
  exact (silent_releaseGuard env owner).keeps

theorem keeps_deactivateThinVolumeLocked (volname : String) (snapname : Option String) :
    Keeps I (deactivateThinVolumeLocked env volname snapname) := by
  refine (silent_ask _ _).keeps.bind fun _ => ?_
  refine (silent_ask _ _).keeps.bind fun _ => ?_
  refine (silent_verifyOwnedVolume env volname true).keeps.bind fun _ => ?_
  refine (silent_guardOwner env).keeps.bind fun owner => ?_
  refine (Silent.whenever (silent_ask _ _) _).keeps.bind fun _ => ?_
  refine (silent_poolRuntimeState env).keeps.bind fun state => ?_
  refine (Keeps.whenever (hquiet _ rfl) _).bind fun _ => ?_
  refine (hquiet _ rfl).bind fun _ => ?_
  refine (silent_poolRuntimeState env).keeps.bind fun state => ?_
  refine (silent_waitGone env _ _ state).keeps.bind fun state => ?_
  refine (silent_refuse _ _).keeps.bind fun _ => ?_
  exact Keeps.whenever (keeps_deactivateIdlePool hquiet owner state) _

end Quiet

theorem readOwner_eq_ok {s s' : Session} {st : OwnerState} (h : readOwner env s = (s', .ok st)) :
    ownerStateFromTags s.cluster.tags = .ok st := by
  rw [readOwner, prog_bind_eq_ok] at h
  obtain ⟨u, t, hask, h⟩ := h
  obtain rfl := (silent_ask _ _).eq_of_ok hask
  rw [prog_bind_eq_ok] at h
  obtain ⟨c, t', hc, h⟩ := h
  cases hc
  exact (Prod.mk.inj h).2

/-- What the barrier has seen when it lets an activation pass. -/
theorem barrier_owner {epoch : String} {s s' : Session}
    (h : activationCommitBarrier env epoch s = (s', .ok ())) :
    ∃ st, ownerStateFromTags s.cluster.tags = .ok st ∧ st.owner = some env.node := by
  rw [activationCommitBarrier, prog_bind_eq_ok] at h
  obtain ⟨_, t, h1, h⟩ := h
  obtain rfl := (silent_refuse _ _).eq_of_ok h1
  rw [prog_bind_eq_ok] at h
  obtain ⟨_, t, h2, h⟩ := h
  obtain rfl := (silent_remoteMapperAudit env none).eq_of_ok h2
  rw [prog_bind_eq_ok] at h
  obtain ⟨st, t, h3, h⟩ := h
  obtain rfl := (silent_readOwner env).eq_of_ok h3
  refine ⟨st, readOwner_eq_ok h3, ?_⟩
  have := (refuse_eq_ok.mp h).2
  simp only [Bool.or_eq_false_iff, decide_eq_false_iff_not, ne_eq, not_not] at this
  exact this.1.2

/-- An activation that returns leaves the node as the recorded owner. -/
theorem activate_good (volname : String) (snapname : Option String) :
    Triple (Clean env) (activateThinVolumeLocked env volname snapname) (fun _ => Good env)
      (Clean env) := by
  have htags : ∀ command : Command, command.retags = true →
      Keeps (Clean env) (runCommand env command) := fun _ h => clean_quiet (mutates_of_retags h)
  refine Triple.bind (silent_ask _ _).keeps fun _ => ?_
  refine Triple.bind (silent_verifyOwnedVolume env volname false).keeps fun _ => ?_
  refine Triple.bind (silent_ask _ _).keeps fun _ => ?_
  refine Triple.bind (silent_ask _ _).keeps fun _ => ?_
  refine Triple.bind (silent_runtimeBefore env).keeps fun before => ?_
  refine Triple.bind (keeps_claimPoolOwner htags) fun epoch => ?_
  refine Triple.bind (Keeps.whenever (keeps_prepareGuard htags) _) fun _ => ?_
  refine Triple.silent (silent_activationCommitBarrier env epoch) (fun _ h => h) fun _ => ?_
  apply triple_runCommand
  intro s hs
  obtain ⟨st, hst, howner⟩ := barrier_owner hs.2
  have hallowed : Allowed env.node s.cluster.tags := ⟨st, hst, Or.inr howner⟩
  have hkeeps : Keeps (Good env) (runCommand env (.activate (lvOf volname snapname))) :=
    good_runCommand rfl
  have hgood := hkeeps.final ⟨hs.1, hallowed⟩
  exact ⟨hgood, hgood.1⟩

/-! ## Entry points that check the owner -/

theorem clean_disableAutoactivation (lv : String) :
    Keeps (Clean env) (disableAutoactivation env lv) :=
  (clean_quiet rfl).bind fun _ => (silent_ask _ _).keeps

theorem good_disableAutoactivation (lv : String) :
    Keeps (Good env) (disableAutoactivation env lv) :=
  (good_runCommand rfl).bind fun _ => (silent_ask _ _).keeps

theorem Triple.orPartial {op : Op Unit} {P Q E : Session → Prop}
    (h : Triple P op (fun _ => Q) E) (name objectState : String) :
    Triple P (orPartial env name objectState op) (fun _ => Q) E := by
  let R : Except String Unit → Session → Prop := fun answer => cond answer.isOk Q E
  have hattempt : Triple P (attempt op) R E := h.attempt (fun _ _ h => h) fun _ _ h => h
  refine Triple.bind hattempt fun answer => ?_
  cases answer with
  | ok _ => exact triple_pure fun _ h => h
  | error reason => exact triple_throwMessage fun _ h => h

theorem Keeps.orPartial {op : Op Unit} (h : Keeps I op) (name objectState : String) :
    Keeps I (orPartial env name objectState op) := Triple.orPartial h name objectState

theorem good_growExistingPool : Keeps (Good env) (growExistingPool env) := by
  refine Keeps.whenever ?_ _
  have hgrow : Keeps (Good env) (growPool env) := by
    refine Keeps.whenever ?_ _
    exact (good_runCommand rfl).attempt.bind fun _ => (silent_ask _ _).keeps
  refine hgrow.bind fun _ => ?_
  exact (silent_ask _ _).keeps.bind fun _ => (silent_ask _ _).keeps

theorem good_publishInactive (name : String) : Keeps (Good env) (publishInactive env name) := by
  refine (good_runCommand rfl).bind fun _ => ?_
  refine (good_runCommand rfl).bind fun _ => ?_
  refine silent_cluster.keeps.bind fun c => ?_
  refine (Keeps.whenever (good_runCommand rfl) _).bind fun _ => ?_
  exact silent_cluster.keeps.bind fun c => (silent_refuse _ _).keeps

theorem clean_clearImport (imported : ImportState) :
    Keeps (Clean env) (clearImport env imported) := by
  refine (clean_quiet rfl).bind fun _ => ?_
  refine (silent_ask _ _).keeps.bind fun _ => ?_
  refine silent_cluster.keeps.bind fun c => ?_
  exact (silent_lift _).keeps.bind fun after => (silent_refuse _ _).keeps

theorem allowed_of_any {st : OwnerState} {node : String}
    (h : (st.owner.any fun owner => owner ≠ node) = false) :
    st.owner = none ∨ st.owner = some node := by
  cases howner : st.owner with
  | none => exact Or.inl rfl
  | some owner =>
    simp only [howner, Option.any_some, decide_eq_false_iff_not, not_not, ne_eq] at h
    exact Or.inr (by rw [h])

theorem allowed_of_checkExistingPool {c : Cluster} {pool : PoolInfo} {name : String}
    {r : OwnerState × ImportState} (h : checkExistingPool env c pool name = .ok r) :
    Allowed env.node pool.tags := by
  simp only [checkExistingPool, Perl.bind_unit_eq_ok, dieIf_eq_ok] at h
  obtain ⟨-, -, h⟩ := h
  rw [Perl.bind_eq_ok] at h
  obtain ⟨st, hst, h⟩ := h
  simp only [Perl.bind_unit_eq_ok, dieIf_eq_ok] at h
  exact ⟨st, hst, allowed_of_any h.2.1⟩

theorem allowed_of_checkRemovalPool {pool : PoolInfo} {s s' : Session}
    (h : checkRemovalPool env pool s = (s', .ok ())) : Allowed env.node pool.tags := by
  simp only [checkRemovalPool, prog_bind_eq_ok] at h
  obtain ⟨-, t1, -, -, t2, -, -, t3, -, -, t4, -, st, t5, hst, -, t6, -, hlast⟩ := h
  exact ⟨st, (Prod.mk.inj hst).2, allowed_of_any (refuse_eq_ok.mp hlast).2⟩

/-- The pool carries the owner schema. -/
def HasSchema (tags : List String) : Prop :=
  ∃ st, ownerStateFromTags tags = .ok st ∧ st.schema = true

theorem exists_pool {c : Cluster} (h : HasSchema c.tags) : ∃ pool, c.pool = some pool := by
  cases hpool : c.pool with
  | some pool => exact ⟨pool, rfl⟩
  | none =>
    have htags : c.tags = [] := by rw [Cluster.tags, hpool]; rfl
    obtain ⟨st, hst, hschema⟩ := h
    rw [htags, show ownerStateFromTags [] = .ok ⟨false, none, none⟩ from rfl] at hst
    cases hst
    cases hschema

theorem tags_of_pool {c : Cluster} {pool : PoolInfo} (h : c.pool = some pool) :
    c.tags = pool.tags := by rw [Cluster.tags, h]; rfl

/-- Nothing has been changed yet in the given cluster, whose pool carries the schema. -/
structure Fresh (env : Env) (c : Cluster) (s : Session) : Prop where
  clean : Clean env s
  cluster : s.cluster = c

theorem fresh_start (c : Cluster) : Fresh env c ⟨c, []⟩ :=
  ⟨fun _ hi => absurd hi List.not_mem_nil, rfl⟩

def GoodFrom (env : Env) (c : Cluster) (s : Session) : Prop :=
  Good env s ∧ Allowed env.node c.tags

theorem Fresh.good {c : Cluster} {s : Session} (h : Fresh env c s)
    (hallowed : Allowed env.node c.tags) : GoodFrom env c s := by
  refine ⟨⟨h.clean, ?_⟩, hallowed⟩
  rw [h.cluster]
  exact hallowed

theorem preparePool_good {c : Cluster} (hschema : HasSchema c.tags) (name : String) :
    Triple (Fresh env c) (preparePool env c name) (fun _ => GoodFrom env c) (Clean env) := by
  obtain ⟨pool, hpool⟩ := exists_pool hschema
  unfold preparePool
  rw [hpool]
  refine Triple.silent (silent_ask _ _) (fun _ h => h.clean) fun _ => ?_
  refine Triple.silent (silent_lift _) (fun _ h => h.1.clean) fun checked => ?_
  have hstart : ∀ s, ((Fresh env c s ∧ ask env .headroom s = (s, .ok ())) ∧
      lift (checkExistingPool env c pool name) s = (s, .ok checked)) → GoodFrom env c s := by
    intro s hs
    apply hs.1.1.good
    rw [tags_of_pool hpool]
    exact allowed_of_checkExistingPool (Prod.mk.inj hs.2).2
  have hrest : Keeps (GoodFrom env c) (ask env (.poolHealth false) >>= fun _ =>
      growExistingPool env >>= fun _ =>
        (pure ⟨false, checked.1.owner.isNone, checked.2⟩ : Op AllocationPlan)) := by
    refine (silent_ask _ _).keeps.bind fun _ => ?_
    exact good_growExistingPool.and_const.bind fun _ => (silent_pure _).keeps
  exact hrest.weaken hstart (fun _ _ h => h) fun _ h => h.1.1

/-- Clean, and the owner allowed the change from the start. -/
def Done (env : Env) (c : Cluster) (s : Session) : Prop :=
  Clean env s ∧ Allowed env.node c.tags

theorem fresh_cluster {α : Type} {c : Cluster} {f : Cluster → Op α} {Q : α → Session → Prop}
    (h : Triple (Fresh env c) (f c) Q (Clean env)) :
    Triple (Fresh env c) (cluster >>= f) Q (Clean env) := by
  intro s hs
  have heq : (cluster >>= f) s = f c s := by
    rw [prog_bind_of_ok (m := cluster) (t := s) (a := c) (by simp [cluster, hs.cluster])]
  unfold Effects.Outcome
  rw [heq]
  exact h s hs

theorem fresh_silent {α : Type} {c : Cluster} {op : Op α} (h : Silent op) :
    Triple (Fresh env c) op (fun _ => Fresh env c) (Clean env) :=
  h.keeps.weaken (fun _ h => h) (fun _ _ h => h) fun _ h => h.clean

theorem goodFrom_keeps {α : Type} {c : Cluster} {op : Op α} (h : Keeps (Good env) op) :
    Triple (GoodFrom env c) op (fun _ => GoodFrom env c) (Clean env) :=
  h.and_const.weaken (fun _ h => h) (fun _ _ h => h) fun _ h => h.1.1

theorem goodFrom_last {c : Cluster} {op : Op Unit} (h : Triple (Good env) op (fun _ => Clean env)
    (Clean env)) : Triple (GoodFrom env c) op (fun _ => Done env c) (Clean env) := by
  intro s hs
  exact (h s hs.1).weaken (fun _ _ hc => ⟨hc, hs.2⟩) fun _ hc => hc

theorem allocImageLocked_done {c : Cluster} (hschema : HasSchema c.tags)
    (fmt name : Option String) : Triple (Fresh env c) (allocImageLocked env fmt name)
      (fun _ => Done env c) (Clean env) := by
  refine Triple.bind (fresh_silent (silent_refuse _ _)) fun _ => ?_
  refine Triple.bind (fresh_silent (silent_ask _ _)) fun _ => ?_
  refine Triple.bind (fresh_silent (silent_ask _ _)) fun _ => ?_
  refine Triple.bind (fresh_silent (silent_diskName env name)) fun name => ?_
  refine Triple.bind (fresh_silent (silent_refuse _ _)) fun _ => ?_
  refine Triple.bind (fresh_silent (silent_ask _ _)) fun _ => ?_
  refine fresh_cluster ?_
  refine Triple.bind (fresh_silent (silent_refuse _ _)) fun _ => ?_
  refine Triple.bind (preparePool_good hschema name) fun plan => ?_
  refine Triple.bind (goodFrom_keeps (silent_ask _ _).keeps) fun _ => ?_
  refine Triple.bind (goodFrom_keeps silent_cluster.keeps) fun later => ?_
  refine Triple.bind (goodFrom_keeps (silent_refuse _ _).keeps) fun _ => ?_
  refine Triple.bind (goodFrom_keeps (Keeps.orPartial (good_runCommand rfl) _ _)) fun _ => ?_
  refine Triple.bind
    (goodFrom_keeps (Keeps.orPartial (good_disableAutoactivation name) _ _)) fun _ => ?_
  refine Triple.bind (goodFrom_keeps
    (Keeps.whenever (Keeps.orPartial (good_publishInactive name) _ _) _)) fun _ => ?_
  apply goodFrom_last
  exact (Keeps.whenever (clean_clearImport plan.imported) _).weaken (fun _ h => h.1)
    (fun _ _ h => h) fun _ h => h

theorem checkRemoval_good {c : Cluster} (hschema : HasSchema c.tags) :
    Triple (Fresh env c) (checkRemoval env c) (fun _ => GoodFrom env c) (Clean env) := by
  obtain ⟨pool, hpool⟩ := exists_pool hschema
  unfold checkRemoval
  rw [hpool]
  intro s hs
  apply (silent_checkRemovalPool env pool).outcome hs.clean
  intro _ hok
  apply hs.good
  rw [tags_of_pool hpool]
  exact allowed_of_checkRemovalPool hok

theorem good_removeSnapshotOf (c : Cluster) (lv : String) :
    Keeps (Good env) (removeSnapshotOf env c lv) := by
  refine (silent_checkMember env c lv).keeps.bind fun _ => ?_
  refine (silent_verifySnapshotPostcondition env lv true).keeps.bind fun _ => ?_
  exact good_runCommand rfl

theorem removeIdlePool_clean :
    Triple (Good env) (removeIdlePool env) (fun _ => Clean env) (Clean env) := by
  refine Triple.silent (silent_ask _ _) (fun _ h => h.1) fun _ => ?_
  refine Triple.silent silent_cluster (fun _ h => h.1.1) fun c => ?_
  refine Triple.weaken (P := Good env) ?_ (fun _ h => h.1.1) (fun _ _ h => h) fun _ h => h
  cases c.pool with
  | none => exact triple_pure fun _ h => h.1
  | some pool =>
    dsimp only
    unfold whenever
    split
    . refine Triple.silent (silent_refuse _ _) (fun _ h => h.1) fun _ => ?_
      refine Triple.silent (silent_ask _ _) (fun _ h => h.1.1) fun _ => ?_
      apply triple_runCommand
      intro s hs
      have hgood : Good env s := hs.1.1
      have hclean : Clean env (runCommand env .removePool s).1 :=
        clean_runCommand hgood.1 fun _ => hgood.2
      exact ⟨hclean, hclean⟩
    . exact triple_pure fun _ h => h.1

theorem freeImageLocked_done {c : Cluster} (hschema : HasSchema c.tags) (volname : String) :
    Triple (Fresh env c) (freeImageLocked env volname) (fun _ => Done env c) (Clean env) := by
  refine Triple.bind (fresh_silent (silent_ask _ _)) fun _ => ?_
  refine Triple.bind (fresh_silent (silent_ask _ _)) fun _ => ?_
  refine Triple.bind (fresh_silent (silent_ask _ _)) fun _ => ?_
  refine Triple.bind (fresh_silent (silent_ask _ _)) fun _ => ?_
  refine fresh_cluster ?_
  refine Triple.bind (checkRemoval_good hschema) fun _ => ?_
  refine Triple.bind (goodFrom_keeps
    (Silent.whenever (silent_checkMember env c volname) _).keeps) fun _ => ?_
  refine Triple.bind (goodFrom_keeps (Keeps.each (good_removeSnapshotOf c) _)) fun _ => ?_
  refine Triple.bind (goodFrom_keeps (silent_ask _ _).keeps) fun _ => ?_
  refine Triple.bind (goodFrom_keeps silent_cluster.keeps) fun later => ?_
  refine Triple.bind (goodFrom_keeps (Keeps.whenever (good_runCommand rfl) _)) fun _ => ?_
  exact goodFrom_last removeIdlePool_clean

/-! ## Rollback -/

/-- Some command changed the pool or one of its volumes. -/
def Changed (s : Session) : Prop := ∃ i ∈ s.issued, i.command.mutates = true

theorem changed_runCommand (command : Command) : Keeps Changed (runCommand env command) := by
  apply keeps_runCommand
  intro s hs
  obtain ⟨i, hi, hm⟩ := hs
  rw [Changed, runCommand_issued]
  exact ⟨i, List.mem_append_left _ hi, hm⟩

theorem changed_of_runCommand {command : Command} (h : command.mutates = true) (s : Session) :
    Changed (runCommand env command s).1 := by
  rw [Changed, runCommand_issued]
  exact ⟨_, List.mem_append_right _ (List.mem_singleton_self _), h⟩

def GoodChanged (env : Env) (s : Session) : Prop := Good env s ∧ Changed s

theorem goodChanged_runCommand {command : Command} (h : command.keepsTags = true) :
    Keeps (GoodChanged env) (runCommand env command) :=
  (good_runCommand h).and (changed_runCommand command)

theorem replaceOrigin_changed (volname snapvol temporary : String) :
    Triple (Good env) (replaceOrigin env volname snapvol temporary) (fun _ => GoodChanged env)
      (GoodChanged env) := by
  have hcreate : Triple (Good env) (runCommand env (.snapshot temporary snapvol))
      (fun _ => GoodChanged env) (GoodChanged env) := by
    apply triple_runCommand
    intro s hs
    have hkeeps : Keeps (Good env) (runCommand env (.snapshot temporary snapvol)) :=
      good_runCommand rfl
    have hgood := hkeeps.final hs
    have hchanged : Changed (runCommand env (.snapshot temporary snapvol) s).1 :=
      changed_of_runCommand rfl s
    exact ⟨⟨hgood, hchanged⟩, ⟨hgood, hchanged⟩⟩
  have hprepare : Triple (Good env) (runCommand env (.snapshot temporary snapvol) >>= fun _ =>
      disableAutoactivation env temporary >>= fun _ => runCommand env (.remove volname))
      (fun _ => GoodChanged env) (GoodChanged env) := by
    refine Triple.bind hcreate fun _ => ?_
    refine Triple.bind (R := fun _ => GoodChanged env) ?_ fun _ => goodChanged_runCommand rfl
    exact (goodChanged_runCommand rfl).bind fun _ => (silent_ask _ _).keeps
  refine Triple.bind (R := fun _ => GoodChanged env) ?_ fun prepared => ?_
  . intro s hs
    apply outcome_attempt
    exact (hprepare s hs).weaken (fun _ _ h => h) fun _ h _ => h
  . cases prepared with
    | error message => exact (silent_rollbackFailed env message volname temporary false).keeps
    | ok _ =>
      refine (goodChanged_runCommand rfl).attempt.bind fun renamed => ?_
      cases renamed with
      | ok _ => exact (silent_pure _).keeps
      | error message => exact (silent_rollbackFailed env message volname temporary true).keeps

theorem volumeSnapshotRollbackLocked_changed (volname snap : String) :
    Triple (Clean env) (volumeSnapshotRollbackLocked env volname snap)
      (fun _ s => Clean env s ∧ Changed s) (Clean env) := by
  refine Triple.bind (silent_ask _ _).keeps fun _ => ?_
  refine Triple.bind (silent_ask _ _).keeps fun _ => ?_
  refine Triple.bind (silent_verifyOwnedVolume env volname false).keeps fun _ => ?_
  refine Triple.bind (silent_ask _ _).keeps fun _ => ?_
  refine Triple.bind (silent_ask _ _).keeps fun _ => ?_
  refine Triple.bind silent_cluster.keeps fun c => ?_
  refine Triple.bind (silent_checkRollbackPool env c volname _).keeps fun _ => ?_
  refine Triple.bind (silent_verifySnapshotPostcondition env _ true).keeps fun _ => ?_
  refine Triple.bind (silent_ask _ _).keeps fun _ => ?_
  refine Triple.bind (silent_refuse _ _).keeps fun _ => ?_
  refine Triple.bind (activate_good volname (some snap)) fun _ => ?_
  refine Triple.bind ((replaceOrigin_changed volname _ _).weaken (fun _ h => h) (fun _ _ h => h)
    fun _ h => h.1.1) fun _ => ?_
  have hquiet : ∀ command : Command, command.mutates = false →
      Keeps (fun s => Clean env s ∧ Changed s) (runCommand env command) :=
    fun command hm => (clean_quiet hm).and (changed_runCommand command)
  have hkeep {α : Type} {op : Op α} (h : Keeps (fun s => Clean env s ∧ Changed s) op) :
      Triple (fun s => Clean env s ∧ Changed s) op (fun _ s => Clean env s ∧ Changed s)
        (Clean env) := h.weaken (fun _ h => h) (fun _ _ h => h) fun _ h => h.1
  refine Triple.weaken (P := fun s => Clean env s ∧ Changed s) ?_ (fun _ h => ⟨h.1.1, h.2⟩)
    (fun _ _ h => h) fun _ h => h
  refine Triple.bind (hkeep (silent_ask _ _).keeps) fun _ => ?_
  refine Triple.bind (hkeep silent_cluster.keeps) fun c => ?_
  refine Triple.bind (hkeep (silent_refuse _ _).keeps) fun _ => ?_
  refine Triple.bind (hkeep (silent_refuse _ _).keeps) fun _ => ?_
  refine Triple.bind (hkeep (silent_ask _ _).keeps) fun _ => ?_
  refine Triple.bind (hkeep (keeps_deactivateThinVolumeLocked hquiet volname (some snap)))
    fun _ => ?_
  exact hkeep (keeps_deactivateThinVolumeLocked hquiet volname none)

/-! ## Entry points that check the storage only -/

theorem ask_bind {α : Type} (check : Check) {f : Unit → Op α} {s : Session}
    (h : env.check check s.issued.length = .ok ()) : (ask env check >>= f) s = f () s :=
  prog_bind_of_ok (by rw [ask, h])

/-- The checks of `_verify_owned_volume`, on the cluster as it is before the operation. -/
structure OwnedVolume (env : Env) (c : Cluster) (volname : String) : Prop where
  inventory : env.check .inventory 0 = .ok ()
  health : env.check (.poolHealth false) 0 = .ok ()
  pool : ∃ pool, c.pool = some pool ∧ pool.lvType = "t" ∧ sidTag env.storage.storeid ∈ pool.tags
  volume : c.has volname = true ∧ c.poolOf volname = some env.pool

theorem ask_eq_ok {check : Check} {s s' : Session} {u : Unit} :
    ask env check s = (s', .ok u) ↔ s' = s ∧ env.check check s.issued.length = .ok () := by
  simp only [ask, Prod.mk.injEq]
  exact ⟨fun h => ⟨h.1.symm, h.2⟩, fun h => ⟨h.1.symm, h.2⟩⟩

theorem cluster_eq_ok {s s' : Session} {c : Cluster} :
    cluster s = (s', .ok c) ↔ s' = s ∧ c = s.cluster := by
  simp only [cluster, Prod.mk.injEq, Except.ok.injEq]
  exact ⟨fun h => ⟨h.1.symm, h.2.symm⟩, fun h => ⟨h.1.symm, h.2.symm⟩⟩

theorem verifyOwnedVolume_eq_ok {c : Cluster} {volname : String} {s' : Session} :
    verifyOwnedVolume env volname false ⟨c, []⟩ = (s', .ok ()) ↔
      s' = ⟨c, []⟩ ∧ OwnedVolume env c volname := by
  unfold verifyOwnedVolume
  rw [prog_bind_eq_ok]
  simp only [ask_eq_ok, prog_bind_eq_ok, cluster_eq_ok]
  constructor
  . intro h
    obtain ⟨_, t, ⟨rfl, hinventory⟩, c', t', ⟨rfl, hc⟩, h⟩ := h
    rw [show c' = c from hc] at h
    cases hpool : c.pool with
    | none =>
      simp only [hpool] at h
      cases h
    | some pool =>
      simp only [hpool, prog_bind_eq_ok, refuse_eq_ok, ask_eq_ok] at h
      obtain ⟨_, _, ⟨rfl, htype⟩, _, _, ⟨rfl, hhealth⟩, _, _, ⟨rfl, hsid⟩, _, _, ⟨rfl, hhas⟩, rfl,
        hin⟩ := h
      refine ⟨rfl, hinventory, hhealth, ⟨pool, hpool, by simpa using htype, by simpa using hsid⟩,
        ?_⟩
      exact ⟨by simpa using hhas, by simpa using hin⟩
  . intro h
    obtain ⟨rfl, hinventory, hhealth, ⟨pool, hpool, htype, hsid⟩, hhas, hin⟩ := h
    refine ⟨(), _, ⟨rfl, hinventory⟩, c, _, ⟨rfl, rfl⟩, ?_⟩
    simp only [hpool, prog_bind_eq_ok, refuse_eq_ok, ask_eq_ok]
    exact ⟨(), _, ⟨rfl, by simpa using htype⟩, (), _, ⟨rfl, hhealth⟩, (), _,
      ⟨rfl, by simpa using hsid⟩,
      (), _, ⟨rfl, by simpa using hhas⟩, rfl, by simpa using hin⟩

/-- Package release, mutation lock, quorum, storage identity and volume name are in order. -/
structure Entered (env : Env) : Prop where
  released : env.check .released 0 = .ok ()
  lock : env.check .lock 0 = .ok ()
  quorum : env.check .quorum 0 = .ok ()
  identity : env.check .identity 0 = .ok ()
  name : env.check .parseName 0 = .ok ()

theorem resizeChecks_eq_ok {c : Cluster} {volname : String} {size : Nat}
    {snapname : Option String} : resizeChecks env volname size snapname ⟨c, []⟩ =
        (⟨c, []⟩, .ok ()) ↔
      Perl.truthy snapname = false ∧ env.check .quorum 0 = .ok () ∧
        env.check .identity 0 = .ok () ∧ env.check .parseName 0 = .ok () ∧
          OwnedVolume env c volname ∧ env.check (.autoactivation volname) 0 = .ok () ∧
            size ≠ 0 := by
  simp only [resizeChecks, prog_bind_eq_ok, refuse_eq_ok, ask_eq_ok]
  constructor
  . intro h
    obtain ⟨_, _, ⟨rfl, hsnap⟩, _, _, ⟨rfl, hquorum⟩, _, _, ⟨rfl, hidentity⟩, _, _, ⟨rfl, hname⟩,
      _, t, hvolume, h⟩ := h
    obtain ⟨rfl, howned⟩ := verifyOwnedVolume_eq_ok.mp hvolume
    obtain ⟨_, _, ⟨rfl, hauto⟩, -, hsize⟩ := h
    exact ⟨hsnap, hquorum, hidentity, hname, howned, hauto, by simpa using hsize⟩
  . intro h
    obtain ⟨hsnap, hquorum, hidentity, hname, howned, hauto, hsize⟩ := h
    exact ⟨(), _, ⟨rfl, hsnap⟩, (), _, ⟨rfl, hquorum⟩, (), _, ⟨rfl, hidentity⟩, (), _, ⟨rfl, hname⟩,
      (), _, verifyOwnedVolume_eq_ok.mpr ⟨rfl, howned⟩, (), _, ⟨rfl, hauto⟩, rfl,
        by simpa using hsize⟩

/-- The snapshot is there, or not there, as the operation needs it. -/
def SnapshotReady (env : Env) (c : Cluster) (snapvol : String) (present : Bool) : Prop :=
  env.check .inventory 0 = .ok () ∧ c.has snapvol = present ∧
    (present = true →
      c.poolOf snapvol = some env.pool ∧ env.check (.snapshotFlags snapvol) 0 = .ok ())

theorem verifySnapshotPostcondition_eq_ok {c : Cluster} {snapvol : String} {present : Bool}
    {s' : Session} : verifySnapshotPostcondition env snapvol present ⟨c, []⟩ = (s', .ok ()) ↔
      s' = ⟨c, []⟩ ∧ SnapshotReady env c snapvol present := by
  simp only [verifySnapshotPostcondition, prog_bind_eq_ok, ask_eq_ok, cluster_eq_ok, SnapshotReady]
  cases present with
  | true =>
    simp only [if_true, prog_bind_eq_ok, refuse_eq_ok, ask_eq_ok]
    constructor
    . intro h
      obtain ⟨_, _, ⟨rfl, hinventory⟩, _, _, ⟨rfl, rfl⟩, _, _, ⟨rfl, hhas⟩, _, _, ⟨rfl, hpool⟩, rfl,
        hflags⟩ := h
      exact ⟨rfl, hinventory, by simpa using hhas, fun _ => ⟨by simpa using hpool, hflags⟩⟩
    . intro h
      obtain ⟨rfl, hinventory, hhas, hpresent⟩ := h
      obtain ⟨hpool, hflags⟩ := hpresent trivial
      exact ⟨(), _, ⟨rfl, hinventory⟩, c, _, ⟨rfl, rfl⟩, (), _, ⟨rfl, by simpa using hhas⟩, (), _,
        ⟨rfl, by simpa using hpool⟩, rfl, hflags⟩
  | false =>
    simp only [Bool.false_eq_true, if_false, refuse_eq_ok, false_implies, and_true]
    constructor
    . intro h
      obtain ⟨_, _, ⟨rfl, hinventory⟩, _, _, ⟨rfl, rfl⟩, rfl, hhas⟩ := h
      exact ⟨rfl, hinventory, hhas⟩
    . intro h
      obtain ⟨rfl, hinventory, hhas⟩ := h
      exact ⟨(), _, ⟨rfl, hinventory⟩, c, _, ⟨rfl, rfl⟩, rfl, hhas⟩

theorem snapshotChecks_eq_ok {c : Cluster} {volname snap : String} {present : Bool} :
    snapshotChecks env volname snap present ⟨c, []⟩ = (⟨c, []⟩, .ok ()) ↔
      env.check .quorum 0 = .ok () ∧ env.check .identity 0 = .ok () ∧
        env.check .parseName 0 = .ok () ∧ OwnedVolume env c volname ∧
          SnapshotReady env c (snapName volname snap) present := by
  simp only [snapshotChecks, prog_bind_eq_ok, ask_eq_ok]
  constructor
  . intro h
    obtain ⟨_, _, ⟨rfl, hquorum⟩, _, _, ⟨rfl, hidentity⟩, _, _, ⟨rfl, hname⟩, _, t, hvolume,
      hready⟩ := h
    obtain ⟨rfl, howned⟩ := verifyOwnedVolume_eq_ok.mp hvolume
    exact ⟨hquorum, hidentity, hname, howned, (verifySnapshotPostcondition_eq_ok.mp hready).2⟩
  . intro h
    obtain ⟨hquorum, hidentity, hname, howned, hready⟩ := h
    exact ⟨(), _, ⟨rfl, hquorum⟩, (), _, ⟨rfl, hidentity⟩, (), _, ⟨rfl, hname⟩, (), _,
      verifyOwnedVolume_eq_ok.mpr ⟨rfl, howned⟩,
        verifySnapshotPostcondition_eq_ok.mpr ⟨rfl, hready⟩⟩

theorem silent_resizeChecks (env : Env) (volname : String) (size : Nat)
    (snapname : Option String) : Silent (resizeChecks env volname size snapname) := by
  refine (silent_refuse _ _).bind fun _ => ?_
  refine (silent_ask _ _).bind fun _ => ?_
  refine (silent_ask _ _).bind fun _ => ?_
  refine (silent_ask _ _).bind fun _ => ?_
  refine (silent_verifyOwnedVolume env volname false).bind fun _ => ?_
  exact (silent_ask _ _).bind fun _ => silent_refuse _ _

theorem silent_snapshotChecks (env : Env) (volname snap : String) (present : Bool) :
    Silent (snapshotChecks env volname snap present) := by
  refine (silent_ask _ _).bind fun _ => ?_
  refine (silent_ask _ _).bind fun _ => ?_
  refine (silent_ask _ _).bind fun _ => ?_
  refine (silent_verifyOwnedVolume env volname false).bind fun _ => ?_
  exact silent_verifySnapshotPostcondition env _ present

/-! ## The law -/

inductive Entry
  | allocImage (fmt name : Option String)
  | freeImage (volname : String)
  | volumeResize (volname : String) (size : Nat) (snapname : Option String)
  | volumeSnapshot (volname snap : String)
  | volumeSnapshotDelete (volname snap : String)
  | volumeSnapshotRollback (volname snap : String)

def Entry.op (env : Env) : Entry → Op Unit
  | .allocImage fmt name => Thin.allocImage env fmt name
  | .freeImage volname => Thin.freeImage env volname
  | .volumeResize volname size snapname => Thin.volumeResize env volname size snapname
  | .volumeSnapshot volname snap => Thin.volumeSnapshot env volname snap
  | .volumeSnapshotDelete volname snap => Thin.volumeSnapshotDelete env volname snap
  | .volumeSnapshotRollback volname snap => Thin.volumeSnapshotRollback env volname snap

/-- The pool and its volumes are changed under an owner tag that allows it, and a call that
changes nothing returns only where the owner tag would have allowed a change. -/
def MutatesAsOwner (env : Env) (entry : Entry) (c : Cluster) : Prop :=
  let result := entry.op env ⟨c, []⟩
  Clean env result.1 ∧ (result.2 = .ok () → Changed result.1 ∨ Allowed env.node c.tags)

/-- The call reaches its command and nothing on the way reads the owner. -/
def Exposed (env : Env) (c : Cluster) : Entry → Prop
  | .volumeResize volname size snapname => Entered env ∧ OwnedVolume env c volname ∧
      Perl.truthy snapname = false ∧ env.check (.autoactivation volname) 0 = .ok () ∧ size ≠ 0
  | .volumeSnapshot volname snap => Entered env ∧ OwnedVolume env c volname ∧
      SnapshotReady env c (snapName volname snap) false
  | .volumeSnapshotDelete volname snap => Entered env ∧ OwnedVolume env c volname ∧
      SnapshotReady env c (snapName volname snap) true
  | _ => False

theorem triple_admitted {c : Cluster} {op : Op Unit} {Q : Unit → Session → Prop}
    (h : Triple (Fresh env c) op Q (Clean env)) :
    Triple (Fresh env c) (admitted env op) Q (Clean env) := by
  refine Triple.bind (fresh_silent (silent_ask _ _)) fun _ => ?_
  exact Triple.bind (fresh_silent (silent_ask _ _)) fun _ => h

theorem mutates_of_triple {c : Cluster} {entry : Entry}
    (h : Triple (Fresh env c) (entry.op env)
      (fun _ s => Clean env s ∧ (Changed s ∨ Allowed env.node c.tags)) (Clean env)) :
    MutatesAsOwner env entry c := by
  have hrun := h _ (fresh_start c)
  unfold Effects.Outcome at hrun
  unfold MutatesAsOwner
  split at hrun
  . rename_i s' a hr
    rw [hr]
    exact ⟨hrun.1, fun _ => hrun.2⟩
  . rename_i s' message hr
    rw [hr]
    exact ⟨hrun, fun hok => by cases hok⟩

/-- A call behind silent checks either stops there or goes on with the state it found. -/
theorem admitted_checks {checks : Op Unit} (hs : Silent checks) (rest : Unit → Op Unit)
    (c : Cluster) :
    (env.check .released 0 = .ok () ∧ env.check .lock 0 = .ok () ∧
        checks ⟨c, []⟩ = (⟨c, []⟩, .ok ()) ∧
        admitted env (checks >>= rest) ⟨c, []⟩ = rest () ⟨c, []⟩) ∨
      (¬ (env.check .released 0 = .ok () ∧ env.check .lock 0 = .ok () ∧
          checks ⟨c, []⟩ = (⟨c, []⟩, .ok ())) ∧
        ∃ message, admitted env (checks >>= rest) ⟨c, []⟩ = (⟨c, []⟩, .error message)) := by
  unfold admitted
  cases hreleased : env.check .released 0 with
  | error message =>
    have hask : ask env .released ⟨c, []⟩ = (⟨c, []⟩, .error message) := by
      simp [ask, hreleased]
    exact Or.inr ⟨by simp, message, prog_bind_of_error hask⟩
  | ok _ =>
    rw [ask_bind .released hreleased]
    cases hlock : env.check .lock 0 with
    | error message =>
      have hask : ask env .lock ⟨c, []⟩ = (⟨c, []⟩, .error message) := by simp [ask, hlock]
      exact Or.inr ⟨by simp, message, prog_bind_of_error hask⟩
    | ok _ =>
      rw [ask_bind .lock hlock]
      rcases hs.ok_or_error ⟨c, []⟩ with ⟨_, hok⟩ | ⟨message, herror⟩
      . exact Or.inl ⟨rfl, rfl, hok, prog_bind_of_ok hok⟩
      . exact Or.inr ⟨by simp [herror], message, prog_bind_of_error herror⟩

theorem settled_issues {command : Command} {post : Op Unit} (hpost : Silent post)
    (outcome : String) (s : Session) :
    Effects.Outcome (settled env command post outcome)
      (fun _ t => ⟨command, s.cluster.tags⟩ ∈ t.issued)
      (fun t => ⟨command, s.cluster.tags⟩ ∈ t.issued) s := by
  have hissue : Triple (fun t => t = s) (attempt (runCommand env command))
      (fun _ t => ⟨command, s.cluster.tags⟩ ∈ t.issued)
      (fun t => ⟨command, s.cluster.tags⟩ ∈ t.issued) := by
    intro t ht
    apply outcome_attempt
    refine (triple_runCommand (P := fun t => t = s)
      (Q := fun t => ⟨command, s.cluster.tags⟩ ∈ t.issued)
      (E := fun t => ⟨command, s.cluster.tags⟩ ∈ t.issued) ?_ t ht).weaken
        (fun _ _ h => h) fun _ h _ => h
    intro t ht
    rw [runCommand_issued, ht]
    simp
  refine Triple.bind hissue (fun reported => ?_) s rfl
  refine hpost.keeps.attempt.bind fun answer => ?_
  cases answer with
  | ok _ => exact (silent_pure _).keeps
  | error reason => exact (silent_throwMessage _).keeps

theorem keeps_issued (i : Issued) (command : Command) :
    Keeps (fun s => i ∈ s.issued) (runCommand env command) := by
  apply keeps_runCommand
  intro s hs
  rw [runCommand_issued]
  exact List.mem_append_left _ hs

theorem good_settled {command : Command} (h : command.keepsTags = true) {post : Op Unit}
    (hpost : Silent post) (outcome : String) :
    Keeps (Good env) (settled env command post outcome) := by
  refine (good_runCommand h).attempt.bind fun reported => ?_
  refine hpost.keeps.attempt.bind fun answer => ?_
  cases answer with
  | ok _ => exact (silent_pure _).keeps
  | error reason => exact (silent_throwMessage _).keeps

/-- A call that issues a command after checks that never read the owner. -/
theorem mutates_iff_of_checks {c : Cluster} {entry : Entry} {checks rest : Op Unit}
    (command : Command) (hop : entry.op env = admitted env (checks >>= fun _ => rest))
    (hs : Silent checks) (hmutates : command.mutates = true) (hgood : Keeps (Good env) rest)
    (hissue : Effects.Outcome rest (fun _ t => ⟨command, c.tags⟩ ∈ t.issued)
      (fun t => ⟨command, c.tags⟩ ∈ t.issued) ⟨c, []⟩)
    (hexposed : Exposed env c entry ↔ env.check .released 0 = .ok () ∧
      env.check .lock 0 = .ok () ∧ checks ⟨c, []⟩ = (⟨c, []⟩, .ok ())) :
    MutatesAsOwner env entry c ↔ Allowed env.node c.tags ∨ ¬ Exposed env c entry := by
  simp only [MutatesAsOwner, hop, hexposed]
  rcases admitted_checks hs (fun _ => rest) c with h | h
  . obtain ⟨hreleased, hlock, hchecks, heq⟩ := h
    rw [heq]
    constructor
    . intro hlaw
      left
      have hissued := hissue.final (P := fun t => ⟨command, c.tags⟩ ∈ t.issued)
        (fun _ _ h => h) fun _ h => h
      exact hlaw.1 ⟨command, c.tags⟩ hissued hmutates
    . intro hallowed
      have hallowed : Allowed env.node c.tags :=
        hallowed.resolve_right fun hnot => hnot ⟨hreleased, hlock, hchecks⟩
      have hrun := hgood.final (s := ⟨c, []⟩) ⟨(fresh_start c).clean, hallowed⟩
      exact ⟨hrun.1, fun _ => Or.inr hallowed⟩
  . obtain ⟨hnot, message, heq⟩ := h
    rw [heq]
    exact ⟨fun _ => Or.inr hnot, fun _ => ⟨(fresh_start c).clean, fun hok => by cases hok⟩⟩

theorem resize_iff {c : Cluster} (volname : String) (size : Nat) (snapname : Option String) :
    MutatesAsOwner env (.volumeResize volname size snapname) c ↔
      Allowed env.node c.tags ∨ ¬ Exposed env c (.volumeResize volname size snapname) := by
  refine mutates_iff_of_checks (.extend volname) rfl
    (silent_resizeChecks env volname size snapname) rfl ?_ ?_ ?_
  . refine (good_settled rfl (silent_ask _ _) _).bind fun _ => ?_
    exact (silent_ask _ _).keeps
  . apply outcome_bind
    exact (settled_issues (silent_ask _ _) _ ⟨c, []⟩).weaken
      (fun _ s h => (silent_ask _ _).keeps (I := fun s => _ ∈ s.issued) s h) fun _ h => h
  . rw [resizeChecks_eq_ok]
    constructor
    . intro h
      obtain ⟨hentered, howned, hsnap, hauto, hsize⟩ := h
      exact ⟨hentered.released, hentered.lock, hsnap, hentered.quorum, hentered.identity,
        hentered.name, howned, hauto, hsize⟩
    . intro h
      obtain ⟨hreleased, hlock, hsnap, hquorum, hidentity, hname, howned, hauto, hsize⟩ := h
      exact ⟨⟨hreleased, hlock, hquorum, hidentity, hname⟩, howned, hsnap, hauto, hsize⟩

theorem exposed_snapshot {c : Cluster} {volname snap : String} {present : Bool} :
    (Entered env ∧ OwnedVolume env c volname ∧
        SnapshotReady env c (snapName volname snap) present) ↔
      env.check .released 0 = .ok () ∧ env.check .lock 0 = .ok () ∧
        snapshotChecks env volname snap present ⟨c, []⟩ = (⟨c, []⟩, .ok ()) := by
  rw [snapshotChecks_eq_ok]
  constructor
  . intro h
    obtain ⟨hentered, howned, hready⟩ := h
    exact ⟨hentered.released, hentered.lock, hentered.quorum, hentered.identity, hentered.name,
      howned, hready⟩
  . intro h
    obtain ⟨hreleased, hlock, hquorum, hidentity, hname, howned, hready⟩ := h
    exact ⟨⟨hreleased, hlock, hquorum, hidentity, hname⟩, howned, hready⟩

theorem snapshot_iff {c : Cluster} (volname snap : String) :
    MutatesAsOwner env (.volumeSnapshot volname snap) c ↔
      Allowed env.node c.tags ∨ ¬ Exposed env c (.volumeSnapshot volname snap) := by
  refine mutates_iff_of_checks (.snapshot (snapName volname snap) volname) rfl
    (silent_snapshotChecks env volname snap false) rfl ?_ ?_ exposed_snapshot
  . refine (good_settled rfl (silent_verifySnapshotPostcondition env _ true) _).bind fun _ => ?_
    refine (good_disableAutoactivation _).bind fun _ => ?_
    exact (silent_verifySnapshotPostcondition env _ true).keeps
  . apply outcome_bind
    refine (settled_issues (silent_verifySnapshotPostcondition env _ true) _ ⟨c, []⟩).weaken
      (fun _ s h => ?_) fun _ h => h
    have hrest : Keeps (fun s => (⟨.snapshot (snapName volname snap) volname, c.tags⟩ : Issued) ∈
        s.issued) (disableAutoactivation env (snapName volname snap) >>= fun _ =>
          verifySnapshotPostcondition env (snapName volname snap) true) := by
      refine Keeps.bind ((keeps_issued _ _).bind fun _ => (silent_ask _ _).keeps) fun _ => ?_
      exact (silent_verifySnapshotPostcondition env _ true).keeps
    exact hrest s h

theorem snapshotDelete_iff {c : Cluster} (volname snap : String) :
    MutatesAsOwner env (.volumeSnapshotDelete volname snap) c ↔
      Allowed env.node c.tags ∨ ¬ Exposed env c (.volumeSnapshotDelete volname snap) :=
  mutates_iff_of_checks (.remove (snapName volname snap)) rfl
    (silent_snapshotChecks env volname snap true) rfl
    (good_settled rfl (silent_verifySnapshotPostcondition env _ false) _)
    (settled_issues (silent_verifySnapshotPostcondition env _ false) _ ⟨c, []⟩) exposed_snapshot

/-- Exactly the calls that are exposed and come from a node the owner tag excludes break the
law: the three entry points without an owner check. -/
theorem mutates_as_owner_iff {c : Cluster} (hschema : HasSchema c.tags) (entry : Entry) :
    MutatesAsOwner env entry c ↔ Allowed env.node c.tags ∨ ¬ Exposed env c entry := by
  cases entry with
  | allocImage fmt name =>
    refine ⟨fun _ => Or.inr id, fun _ => mutates_of_triple (triple_admitted ?_)⟩
    exact (allocImageLocked_done hschema fmt name).weaken (fun _ h => h)
      (fun _ _ h => ⟨h.1, Or.inr h.2⟩) fun _ h => h
  | freeImage volname =>
    refine ⟨fun _ => Or.inr id, fun _ => mutates_of_triple (triple_admitted ?_)⟩
    exact (freeImageLocked_done hschema volname).weaken (fun _ h => h)
      (fun _ _ h => ⟨h.1, Or.inr h.2⟩) fun _ h => h
  | volumeResize volname size snapname => exact resize_iff volname size snapname
  | volumeSnapshot volname snap => exact snapshot_iff volname snap
  | volumeSnapshotDelete volname snap => exact snapshotDelete_iff volname snap
  | volumeSnapshotRollback volname snap =>
    refine ⟨fun _ => Or.inr id, fun _ => mutates_of_triple (triple_admitted ?_)⟩
    exact (volumeSnapshotRollbackLocked_changed volname snap).weaken (fun _ h => h.clean)
      (fun _ _ h => ⟨h.1, Or.inl h.2⟩) fun _ h => h

/-! ## A resize on a node that does not own the pool -/

def sampleStorage : Storage := ⟨"thin", "vg0", "remote-audit", "disabled", .undef, "fixed"⟩

/-- Every check passes and every command takes effect. -/
def sampleEnv (node : String) : Env where
  node
  storage := sampleStorage
  vmid := "100"
  check := fun _ _ => .ok ()
  outcome := fun _ => ⟨true, false, .ok ()⟩
  members := some [("a", ⟨true, "10.0.0.1"⟩), ("b", ⟨true, "10.0.0.2"⟩)]
  ha := ⟨none, none, 0⟩
  transactionId := "0123456789abcdef0123456789abcdef"
  growth := false
  freeDiskname := .ok "vm-100-disk-1"
  pid := "1"

def ownedTags : List String :=
  [sidTag "thin", schemaTag, ownerTag "a", epochTag "0123456789abcdef0123456789abcdef"]

/-- The pool of a running VM: mapped on its owner, node `a`. -/
def ownedCluster : Cluster where
  pool := some ⟨"t", ownedTags⟩
  volumes := [("vm-100-disk-0", some "sltp-100")]
  kernel := fun node => if node = "a" then ⟨true, ["vm-100-disk-0"]⟩ else ⟨false, []⟩

theorem ownedTags_state : ownerStateFromTags ownedTags =
    .ok ⟨true, some "a", some "0123456789abcdef0123456789abcdef"⟩ := by decide +kernel

theorem mutates_as_owner_fails : HasSchema ownedCluster.tags ∧
    ¬ MutatesAsOwner (sampleEnv "b") (.volumeResize "vm-100-disk-0" 4096 none) ownedCluster := by
  refine ⟨⟨_, ownedTags_state, rfl⟩, ?_⟩
  intro h
  have hissued : (⟨.extend "vm-100-disk-0", ownedTags⟩ : Issued) ∈
      (Entry.op (sampleEnv "b") (.volumeResize "vm-100-disk-0" 4096 none)
        ⟨ownedCluster, []⟩).1.issued := by
    decide +kernel
  obtain ⟨st, hst, howner⟩ := h.1 _ hissued rfl
  rw [ownedTags_state] at hst
  cases hst
  revert howner
  decide

/-- The owner itself may resize. -/
theorem mutates_as_owner_iff_owner :
    MutatesAsOwner (sampleEnv "a") (.volumeResize "vm-100-disk-0" 4096 none) ownedCluster := by
  have hschema : HasSchema ownedCluster.tags := ⟨_, ownedTags_state, rfl⟩
  exact (mutates_as_owner_iff hschema _).mpr (Or.inl ⟨_, ownedTags_state, Or.inr rfl⟩)

end SharedLvmThin.Thin
