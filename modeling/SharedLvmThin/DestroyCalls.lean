import SharedLvmThin.DestroyLifecycle

/-! The execution, the resumption and the completion of a destroy each keep their law. -/

namespace SharedLvmThin.VMDestroy
open Perl Effects

/-! ## The execution -/

/-- The records before the native destroy. -/
def announcedRecords : List (Stage × Bool) := [(.prepared, true), (.dispatched, true)]

variable {p q : List (Stage × Bool)} {e : List NativeEffect} {s : ExecState} {env : Env}
  {vmid : String} {locked : Locked}

theorem opens_of_prefix {before : List Event} {event : Event}
    (h : announcedRecords <+: publications before) : Opens before event := by
  obtain ⟨rest, hrest⟩ := h
  exact fun _ => .inr (by rw [← hrest]; rfl)

theorem outcome_announced {Q : Unit → ExecState → Prop} (hs : Paced ExecutionLaw [] [] s.trace)
    (hok : ∀ s', Paced ExecutionLaw announcedRecords [] s'.trace → Q () s') :
    Outcome (announce env vmid locked) Q (Stopped ExecutionLaw []) s := by
  refine outcome_bind (outcome_read (outcome_bind ?_))
  refine outcome_publish free_execution hs List.nil_prefix (fun receipt acked => ?_) fun s₁ h₁ => ?_
  · exact ⟨trivial, fun _ => .inl ⟨hs.published, rfl⟩⟩
  refine (quiet_reloadConfig _).outcome free_execution h₁ List.nil_prefix fun _ s₂ h₂ => ?_
  refine (quiet_note _ _).outcome free_execution h₂ List.nil_prefix fun _ s₃ h₃ => ?_
  refine outcome_bind (outcome_read ?_)
  refine outcome_publish free_execution h₃ List.nil_prefix (fun receipt acked => ?_) hok
  exact ⟨trivial, fun _ => .inr (by rw [h₃.published]; rfl)⟩

theorem outcome_dispatched {Q : Unit → ExecState → Prop}
    (hs : Paced ExecutionLaw announcedRecords [] s.trace)
    (hok : ∀ s', Paced ExecutionLaw announcedRecords [.destroyVm] s'.trace → Q () s') :
    Outcome (dispatch env vmid locked) Q (Stopped ExecutionLaw announcedRecords) s := by
  have hq := List.prefix_refl announcedRecords
  refine (quiet_reloadConfig _).outcome free_execution hs hq fun _ s₁ h₁ => ?_
  refine (quiet_ask _).outcome free_execution h₁ hq fun runtime s₂ h₂ => ?_
  refine (quiet_emit (not_acts_runtime runtime)).outcome free_execution h₂ hq fun _ s₃ h₃ => ?_
  refine (quiet_require _ _).outcome free_execution h₃ hq fun _ s₄ h₄ => ?_
  refine (quiet_ask _).outcome free_execution h₄ hq fun _ s₅ h₅ => ?_
  refine (quiet_ask _).outcome free_execution h₅ hq fun _ s₆ h₆ => ?_
  refine (quiet_require _ _).outcome free_execution h₆ hq fun _ s₇ h₇ => ?_
  refine Quiet.outcome (quiet_update fun _ => rfl) free_execution h₇ hq fun _ s₈ h₈ => ?_
  refine outcome_bind (outcome_update ?_)
  have hlaw : ExecutionLaw s₈.trace (.effect .destroyVm) :=
    ⟨⟨h₈.published, h₈.effected⟩, opens_of_prefix (by rw [h₈.published])⟩
  refine (quiet_runNative _).outcome free_execution (h₈.effect hlaw) hq fun _ s₉ h₉ => ?_
  refine (quiet_note _ _).outcome free_execution h₉ hq fun _ t₁ k₁ => ?_
  refine outcome_bind (outcome_read ?_)
  refine (quiet_note _ _).outcome free_execution k₁ hq fun _ t₂ k₂ => ?_
  refine (quiet_note _ _).outcome free_execution k₂ hq fun _ t₃ k₃ => ?_
  refine (quiet_require _ _).outcome free_execution k₃ hq fun _ t₄ k₄ => ?_
  exact outcome_required free_execution (k₄.stopped hq) fun _ => hok t₄ k₄

theorem outcome_provenAbsent {Q : Value → ExecState → Prop}
    (hs : Paced ExecutionLaw p e s.trace) (hq : q <+: p)
    (hok : ∀ zombie s', isZombie zombie = .ok true → Paced ExecutionLaw p e s'.trace →
      Q zombie s') :
    Outcome (proveStorageAbsent env locked) Q (Stopped ExecutionLaw q) s := by
  refine (quiet_ask _).outcome free_execution hs hq fun _ s₁ h₁ => ?_
  refine (quiet_ask _).outcome free_execution h₁ hq fun proof s₂ h₂ => ?_
  refine (quiet_note _ _).outcome free_execution h₂ hq fun _ s₃ h₃ => ?_
  refine (quiet_require _ _).outcome free_execution h₃ hq fun _ s₄ h₄ => ?_
  refine (quiet_ask _).outcome free_execution h₄ hq fun _ s₅ h₅ => ?_
  refine (quiet_ask _).outcome free_execution h₅ hq fun _ s₆ h₆ => ?_
  refine (quiet_require _ _).outcome free_execution h₆ hq fun _ s₇ h₇ => ?_
  refine (quiet_ask _).outcome free_execution h₇ hq fun zombie s₈ h₈ => ?_
  refine outcome_bind (outcome_asked free_execution (h₈.stopped hq) fun exact hexact => ?_)
  refine outcome_bind (outcome_required free_execution (h₈.stopped hq) fun htrue => ?_)
  subst htrue
  refine (quiet_ask _).outcome free_execution h₈ hq fun _ s₉ h₉ => ?_
  refine (quiet_note _ _).outcome free_execution h₉ hq fun _ t₁ k₁ => ?_
  exact outcome_pure (hok zombie t₁ hexact k₁)

theorem grants_execution {rest : List (Stage × Bool)} :
    Grants ExecutionLaw (announcedRecords ++ rest ++ [(.finalizing, true)]) := by
  intro before native hnative hp hzombie
  refine ⟨?_, opens_of_prefix ?_⟩
  · have hlast : (publications before).getLast? = some (.finalizing, true) := by
      rw [hp]
      exact List.getLast?_concat
    cases native with
    | destroyVm => exact absurd rfl hnative
    | removeVmAccess => exact ⟨hlast, hzombie⟩
    | removeVmfwConf => exact ⟨hlast, hzombie⟩
    | destroyConfig => exact ⟨hlast, hzombie⟩
  · rw [hp, List.append_assoc]
    exact List.prefix_append _ _

theorem outcome_guardedCall (hs : Paced ExecutionLaw announcedRecords [] s.trace) :
    Outcome (guarded env vmid locked) (fun _ => Stopped ExecutionLaw announcedRecords)
      (Stopped ExecutionLaw announcedRecords) s := by
  refine outcome_bind (outcome_dispatched hs fun s₁ h₁ => ?_)
  refine outcome_bind (outcome_provenAbsent h₁ (List.prefix_refl _) fun zombie s₂ hzombie h₂ => ?_)
  refine outcome_bind (outcome_read (outcome_bind ?_))
  have hopen : ∀ {t : List Event} {p e} {event : Event}, Paced ExecutionLaw p e t →
      announcedRecords <+: p → Opens t event := fun h hp => opens_of_prefix (by rw [h.published]; exact hp)
  refine outcome_publish free_execution h₂ (List.prefix_refl _)
    (fun _ _ => ⟨trivial, hopen h₂ (List.prefix_refl _)⟩) fun s₃ h₃ => ?_
  have hq₃ : announcedRecords <+: announcedRecords ++ [(Stage.storageAbsent, true)] :=
    List.prefix_append _ _
  refine Quiet.outcome (quiet_update fun _ => rfl) free_execution h₃ hq₃ fun _ s₄ h₄ => ?_
  refine outcome_bind (outcome_read (outcome_bind ?_))
  refine outcome_publish free_execution h₄ hq₃ (fun _ _ => ⟨trivial, hopen h₄ hq₃⟩) fun s₅ h₅ => ?_
  have hq₅ := hq₃.trans (List.prefix_append _ [(Stage.finalizing, true)])
  refine outcome_bind (outcome_finalized free_execution h₅ hq₅ grants_execution hzombie
    fun s₆ e₆ h₆ hnothing => ?_)
  refine outcome_bind (outcome_read ?_)
  refine outcome_publish free_execution h₆ hq₅ (fun _ _ => ⟨.inl ⟨?_, hnothing⟩, hopen h₆ hq₅⟩)
    fun s₇ h₇ => h₇.stopped (hq₅.trans (List.prefix_append _ _))
  rw [h₆.published]
  exact List.getLast?_concat

theorem outcome_failureRecorded {error : String} (hs : Stopped ExecutionLaw announcedRecords s) :
    Outcome (recordFailure env locked error) (fun _ => Stopped ExecutionLaw announcedRecords)
      (Stopped ExecutionLaw announcedRecords) s := by
  refine outcome_bind (outcome_read (outcome_bind (outcome_attempt ?_)))
  have hpaced : Paced ExecutionLaw (publications s.trace) (effects s.trace) s.trace :=
    ⟨hs.1, rfl, rfl⟩
  have hlaw : ∀ receipt acked,
      ExecutionLaw s.trace (.published (failureStage s.storageAbsent) receipt acked) := by
    intro receipt acked
    refine ⟨?_, opens_of_prefix hs.2⟩
    cases s.storageAbsent <;> trivial
  have hdead : ∀ s' message, Stopped ExecutionLaw announcedRecords s' →
      Outcome (die message : Exec Value) (fun _ => Stopped ExecutionLaw announcedRecords)
        (Stopped ExecutionLaw announcedRecords) s' :=
    fun s' message h => outcome_die (h.fail free_execution message)
  refine (outcome_publish free_execution hpaced hs.2 hlaw fun s' h' => ?_).weaken
    (fun _ _ h => h) fun s' h message => hdead s' _ h
  exact hdead s' _ (h'.stopped (hs.2.trans (List.prefix_append _ _)))

theorem stopped_idle {Law : List Event → Event → Prop} : Paced Law [] [] idle.trace :=
  ⟨always_nil, rfl, rfl⟩

theorem outcome_executeCall (vmid txid : Option String) :
    Outcome (execute env vmid txid) (fun _ => Stopped ExecutionLaw []) (Stopped ExecutionLaw []) idle := by
  have hnil : ([] : List (Stage × Bool)) <+: [] := List.prefix_refl _
  refine (quiet_require _ _).outcome free_execution stopped_idle hnil fun _ s₁ h₁ => ?_
  refine (quiet_require _ _).outcome free_execution h₁ hnil fun _ s₂ h₂ => ?_
  refine (quiet_ask _).outcome free_execution h₂ hnil fun _ s₃ h₃ => ?_
  refine (quiet_ask _).outcome free_execution h₃ hnil fun _ s₄ h₄ => ?_
  refine (quiet_ask _).outcome free_execution h₄ hnil fun _ s₅ h₅ => ?_
  refine (quiet_preflight _).outcome free_execution h₅ hnil fun locked s₆ h₆ => ?_
  refine outcome_bind (outcome_announced h₆ fun s₇ h₇ => ?_)
  have hweak : ∀ {s'}, Stopped ExecutionLaw announcedRecords s' → Stopped ExecutionLaw [] s' :=
    fun h => ⟨h.1, List.nil_prefix⟩
  refine outcome_bind (outcome_attempt ((outcome_guardedCall h₇).weaken ?_ ?_))
  · exact fun _ s' h => outcome_pure (hweak h)
  · exact fun s' h error => (outcome_failureRecorded h).weaken (fun _ _ h => hweak h) fun _ h => hweak h

theorem execute_lawful (env : Env) (vmid txid : Option String) :
    Always ExecutionLaw (traceOf env vmid txid) :=
  (outcome_executeCall vmid txid).final (fun _ _ h => h.1) fun _ h => h.1

/-! ## The resumption -/

def Resumable (env : ResumeEnv) (vmid txid : Option String) : Prop :=
  ∃ history receipt, env.readJournal = .ok history ∧
    resumableReceipt history (vmid.getD "") (txid.getD "") = .ok receipt

variable {admitted : Prop} {resumed : ResumeEnv} {receipt : Value} {txid : String}

theorem quiet_reprove : Quiet (reprove resumed receipt) := by
  refine (quiet_ask _).bind fun runtime => (quiet_emit (not_acts_runtime runtime)).bind fun _ => ?_
  refine (quiet_require _ _).bind fun _ => (quiet_ask _).bind fun _ => (quiet_ask _).bind fun _ => ?_
  refine (quiet_require _ _).bind fun _ => (quiet_ask _).bind fun _ => (quiet_ask _).bind fun _ => ?_
  refine (quiet_ask _).bind fun _ => (quiet_require _ _).bind fun _ => (quiet_ask _).bind fun _ => ?_
  exact (quiet_ask _).bind fun _ => quiet_require _ _

theorem isZombie_bare : isZombie bareZombie = .ok true := by decide +kernel

theorem outcome_resumedZombie {Q : Value → ExecState → Prop} {Law : List Event → Event → Prop}
    (hfree : Free Law) (hs : Paced Law p e s.trace) (hq : q <+: p)
    (hok : ∀ zombie s', isZombie zombie = .ok true → Paced Law p e s'.trace → Q zombie s') :
    Outcome (resumedZombie resumed vmid receipt) Q (Stopped Law q) s := by
  refine (quiet_finalizationState _ _).outcome hfree hs hq fun state s₁ h₁ => ?_
  split_ifs
  · refine (quiet_ask _).outcome hfree h₁ hq fun zombie s₂ h₂ => ?_
    refine outcome_bind (outcome_asked hfree (h₂.stopped hq) fun exact hexact => ?_)
    refine outcome_bind (outcome_required hfree (h₂.stopped hq) fun htrue => ?_)
    subst htrue
    refine (quiet_ask _).outcome hfree h₂ hq fun _ s₃ h₃ => ?_
    refine (quiet_require _ _).outcome hfree h₃ hq fun _ s₄ h₄ => ?_
    exact outcome_pure (hok zombie s₄ hexact h₄)
  · exact outcome_pure (hok bareZombie s₁ isZombie_bare h₁)

theorem grants_recovery (hadmitted : admitted) :
    Grants (RecoveryLaw admitted) [(.finalizing, true)] := by
  intro before native hnative hp hzombie
  refine ⟨?_, fun _ => hadmitted⟩
  have hlast : (publications before).getLast? = some (.finalizing, true) := by
    rw [hp]
    rfl
  cases native with
  | destroyVm => exact absurd rfl hnative
  | removeVmAccess => exact ⟨hlast, hzombie⟩
  | removeVmfwConf => exact ⟨hlast, hzombie⟩
  | destroyConfig => exact ⟨hlast, hzombie⟩

theorem outcome_resumeFailureRecorded {error : String} (hadmitted : admitted)
    (hs : Stopped (RecoveryLaw admitted) [] s) :
    Outcome (recordResumeFailure resumed receipt error) (fun _ => Stopped (RecoveryLaw admitted) [])
      (Stopped (RecoveryLaw admitted) []) s := by
  refine outcome_bind (outcome_read (outcome_bind (outcome_attempt ?_)))
  have hpaced : Paced (RecoveryLaw admitted) (publications s.trace) (effects s.trace) s.trace :=
    ⟨hs.1, rfl, rfl⟩
  have hdead : ∀ s' message, Stopped (RecoveryLaw admitted) [] s' →
      Outcome (die message : Exec Value) (fun _ => Stopped (RecoveryLaw admitted) [])
        (Stopped (RecoveryLaw admitted) []) s' :=
    fun s' message h => outcome_die (h.fail (free_recovery admitted) message)
  have hlaw : ∀ receipt acked,
      RecoveryLaw admitted s.trace (.published .finalizing receipt acked) :=
    fun _ _ => ⟨trivial, fun _ => hadmitted⟩
  refine (outcome_publish (free_recovery admitted) hpaced List.nil_prefix hlaw fun s' h' => ?_).weaken
    (fun _ _ h => h) fun s' h message => hdead s' _ h
  exact hdead s' _ (h'.stopped List.nil_prefix)

theorem outcome_repeated (hadmitted : admitted) (hs : Paced (RecoveryLaw admitted) [] [] s.trace) :
    Outcome (repeatFinalization resumed vmid txid receipt)
      (fun _ => Stopped (RecoveryLaw admitted) []) (Stopped (RecoveryLaw admitted) []) s := by
  have hfree := free_recovery admitted
  have hnil : ∀ {p : List (Stage × Bool)}, [] <+: p := List.nil_prefix
  refine outcome_bind (outcome_resumedZombie hfree hs hnil fun zombie s₁ hzombie h₁ => ?_)
  refine (quiet_ask _).outcome hfree h₁ hnil fun _ s₂ h₂ => ?_
  refine Quiet.outcome (quiet_update fun _ => rfl) hfree h₂ hnil fun _ s₃ h₃ => ?_
  refine outcome_bind (outcome_read (outcome_bind ?_))
  refine outcome_publish hfree h₃ hnil (fun _ _ => ⟨trivial, fun _ => hadmitted⟩) fun s₄ h₄ => ?_
  refine outcome_bind (outcome_attempt ?_)
  refine (outcome_finalized  hfree h₄ hnil (grants_recovery hadmitted) hzombie
    fun s₅ e₅ h₅ hnothing => ?_).weaken (fun _ _ h => h) fun s' h error =>
      outcome_resumeFailureRecorded hadmitted h
  refine outcome_bind (outcome_read (outcome_bind ?_))
  refine outcome_publish hfree h₅ hnil (fun _ _ => ⟨.inl ⟨?_, hnothing⟩, fun _ => hadmitted⟩)
    fun s₆ h₆ => outcome_pure (h₆.stopped hnil)
  rw [h₅.published]
  rfl

theorem resume_lawful (env : ResumeEnv) (vmid txid : Option String) :
    Always (RecoveryLaw (Resumable env vmid txid)) (resumeFinalizing env vmid txid idle).1.trace := by
  have hfree := free_recovery (Resumable env vmid txid)
  have hnil : ([] : List (Stage × Bool)) <+: [] := List.prefix_refl _
  have hout : Outcome (resumeFinalizing env vmid txid)
      (fun _ => Stopped (RecoveryLaw (Resumable env vmid txid)) [])
      (Stopped (RecoveryLaw (Resumable env vmid txid)) []) idle := by
    refine (quiet_require _ _).outcome hfree stopped_idle hnil fun _ s₁ h₁ => ?_
    refine (quiet_require _ _).outcome hfree h₁ hnil fun _ s₂ h₂ => ?_
    refine (quiet_ask _).outcome hfree h₂ hnil fun _ s₃ h₃ => ?_
    refine (quiet_ask _).outcome hfree h₃ hnil fun _ s₄ h₄ => ?_
    refine (quiet_ask _).outcome hfree h₄ hnil fun _ s₅ h₅ => ?_
    refine outcome_bind (outcome_asked hfree (h₅.stopped hnil) fun history hhistory => ?_)
    refine outcome_bind (outcome_asked hfree (h₅.stopped hnil) fun receipt hreceipt => ?_)
    refine quiet_reprove.outcome hfree h₅ hnil fun _ s₆ h₆ => ?_
    exact outcome_repeated ⟨history, receipt, hhistory, hreceipt⟩ h₆
  exact hout.final (fun _ _ h => h.1) fun _ h => h.1

/-! ## The completion -/

def Completable (env : CompletionEnv) (vmid txid : Option String) : Prop :=
  ∃ history context, env.readJournal = .ok history ∧
    FinalizingReaders.completionContext history (vmid.getD "") (txid.getD "") = .ok context

theorem outcome_observedAbsent {Q : Value → ExecState → Prop} {answer : Except String Value}
    {context : Value} {head : String} (hs : Paced (RecoveryLaw admitted) [] [] s.trace)
    (hok : ∀ proof copy s', completionObservation proof context head txid = .ok () →
      proof.copy = .ok copy → s'.trace = s.trace ++ [.runtime proof] → Q copy s') :
    Outcome (observeAbsent answer context head txid) Q (Stopped (RecoveryLaw admitted) []) s := by
  have hfree := free_recovery admitted
  have hnil : ([] : List (Stage × Bool)) <+: [] := List.prefix_refl _
  refine outcome_bind (outcome_asked hfree (hs.stopped hnil) fun proof _ => ?_)
  refine outcome_bind (outcome_asked hfree (hs.stopped hnil) fun _ hproof => ?_)
  refine outcome_bind (outcome_update ?_)
  have hseen := hs.quiet hfree (not_acts_runtime proof)
  exact outcome_asked hfree (Paced.stopped  hseen hnil)
    fun copy hcopy => hok proof copy _ hproof hcopy rfl

theorem complete_lawful (env : CompletionEnv) (vmid txid : Option String) :
    Always (RecoveryLaw (Completable env vmid txid))
      (completeFinalizingAbsent env vmid txid idle).1.trace := by
  have hfree := free_recovery (Completable env vmid txid)
  have hnil : ([] : List (Stage × Bool)) <+: [] := List.prefix_refl _
  have hidle : Paced (RecoveryLaw (Completable env vmid txid)) [] [] idle.trace := stopped_idle
  have hstop := hidle.stopped hnil
  have hout : Outcome (completeFinalizingAbsent env vmid txid)
      (fun _ => Stopped (RecoveryLaw (Completable env vmid txid)) [])
      (Stopped (RecoveryLaw (Completable env vmid txid)) []) idle := by
    refine outcome_bind (outcome_required hfree hstop fun _ => ?_)
    refine outcome_bind (outcome_required hfree hstop fun _ => ?_)
    refine outcome_bind (outcome_asked hfree hstop fun _ _ => ?_)
    refine outcome_bind (outcome_asked hfree hstop fun _ _ => ?_)
    refine outcome_bind (outcome_asked hfree hstop fun history hhistory => ?_)
    refine outcome_bind (outcome_asked hfree hstop fun context hcontext => ?_)
    refine outcome_bind (outcome_asked hfree hstop fun copy _ => ?_)
    refine outcome_bind (outcome_observedAbsent hidle fun first before s₁ hfirst hbefore h₁ => ?_)
    have hpaced₁ : Paced (RecoveryLaw (Completable env vmid txid)) [] [] s₁.trace := by
      rw [h₁]
      exact hidle.quiet hfree (not_acts_runtime first)
    refine outcome_bind (outcome_asked hfree (hpaced₁.stopped hnil) fun again _ => ?_)
    refine outcome_bind (outcome_asked hfree (hpaced₁.stopped hnil) fun _ _ => ?_)
    refine outcome_bind (outcome_asked hfree (hpaced₁.stopped hnil) fun _ _ => ?_)
    refine outcome_bind (outcome_asked hfree (hpaced₁.stopped hnil) fun _ _ => ?_)
    refine outcome_bind (outcome_required hfree (hpaced₁.stopped hnil) fun _ => ?_)
    refine outcome_bind (outcome_observedAbsent hpaced₁ fun second after s₂ hsecond hafter h₂ => ?_)
    have hpaced₂ : Paced (RecoveryLaw (Completable env vmid txid)) [] [] s₂.trace := by
      rw [h₂]
      exact hpaced₁.quiet hfree (not_acts_runtime second)
    refine outcome_bind (outcome_asked hfree (hpaced₂.stopped hnil) fun text htext => ?_)
    refine outcome_bind (outcome_asked hfree (hpaced₂.stopped hnil) fun expected hexpected => ?_)
    refine outcome_bind (outcome_required hfree (hpaced₂.stopped hnil) fun hsame => ?_)
    obtain rfl : text = expected := of_decide_eq_true hsame
    refine outcome_bind (outcome_asked hfree (hpaced₂.stopped hnil) fun receipt _ => ?_)
    refine outcome_bind (outcome_update ?_)
    have hbracketed : Bracketed s₂.trace := by
      refine ⟨[], first, second, context, _, _, text, ?_, hfirst, hsecond, ?_, ?_⟩
      · rw [h₂, h₁]
        rfl
      · rw [hbefore]
        exact hexpected
      · rw [hafter]
        exact htext
    have hlaw : RecoveryLaw (Completable env vmid txid) s₂.trace
        (.published .complete receipt (isAck env.journalCas)) :=
      ⟨.inr ⟨hpaced₂.published, hbracketed⟩, fun _ => ⟨history, context, hhistory, hcontext⟩⟩
    have hpublished := hpaced₂.publish hlaw
    have hdone : Stopped (RecoveryLaw (Completable env vmid txid)) []
        { s₂ with trace := s₂.trace ++ [.published .complete receipt (isAck env.journalCas)] } :=
      hpublished.stopped List.nil_prefix
    refine outcome_bind (outcome_asked hfree hdone fun _ _ => ?_)
    exact outcome_bind (outcome_required hfree hdone fun _ => outcome_pure hdone)
  exact hout.final (fun _ _ h => h.1) fun _ h => h.1

end SharedLvmThin.VMDestroy
