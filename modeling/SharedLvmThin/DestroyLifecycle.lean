import SharedLvmThin.DestroyResume

/-! What the calls on one destroy owe to the records they have published. A call may publish a
record that the journal does not take, so only an acknowledged record counts. -/

namespace SharedLvmThin.VMDestroy
open Perl Effects

/-! ## Laws of one call -/

def Event.publication : Event → Option (Stage × Bool)
  | .published stage _ acked => some (stage, acked)
  | _ => none

def Event.native : Event → Option NativeEffect
  | .effect native => some native
  | _ => none

def publications (trace : List Event) : List (Stage × Bool) := trace.filterMap Event.publication

def effects (trace : List Event) : List NativeEffect := trace.filterMap Event.native

/-- The latest observation shows the configuration of some zombie. -/
def ShowsSomeZombie (before : List Event) : Prop :=
  ∃ zombie state, isZombie zombie = .ok true ∧ lastObserved before = some state ∧
    ShowsZombie zombie state

/-- The latest observation shows no ACL, no firewall and no configuration. -/
def ShowsNothing (before : List Event) : Prop :=
  ∃ state, lastObserved before = some state ∧ ScopeAbsent state ∧
    (state.get "config").text ≠ "PRESENT"

/-- Two equal absent-only proofs under one head. -/
def Bracketed (before : List Event) : Prop :=
  ∃ earlier first second context head txid text,
    before = earlier ++ [.runtime first, .runtime second] ∧
      completionObservation first context head txid = .ok () ∧
      completionObservation second context head txid = .ok () ∧
      (first.copy >>= Value.canonical) = .ok text ∧ (second.copy >>= Value.canonical) = .ok text

/-- What an event owes to the earlier events of its call. -/
def Owes (before : List Event) (event : Event) : Prop :=
  match event with
  | .effect .destroyVm =>
    publications before = [(.prepared, true), (.dispatched, true)] ∧ effects before = []
  | .effect _ => (publications before).getLast? = some (.finalizing, true) ∧ ShowsSomeZombie before
  | .published .complete _ _ =>
    ((publications before).getLast? = some (.finalizing, true) ∧ ShowsNothing before) ∨
      (publications before = [] ∧ Bracketed before)
  | _ => True

/-- A publication or an effect. -/
def Event.Acts (event : Event) : Prop := event.publication ≠ none ∨ event.native ≠ none

/-- An execution acts no further unless its first record was acknowledged. -/
def Opens (before : List Event) (event : Event) : Prop :=
  event.Acts → (publications before = [] ∧ event.publication.map Prod.fst = some .prepared) ∨
    (publications before).head? = some (.prepared, true)

def ExecutionLaw (before : List Event) (event : Event) : Prop :=
  Owes before event ∧ Opens before event

/-- A call that goes on from a history acts only on the strength of it. -/
def RecoveryLaw (admitted : Prop) (before : List Event) (event : Event) : Prop :=
  Owes before event ∧ (event.Acts → admitted)

/-- Laws under which only publications and effects owe anything. -/
def Free (Law : List Event → Event → Prop) : Prop :=
  ∀ before event, ¬ event.Acts → Law before event

theorem owes_of_not_acts {before : List Event} {event : Event} (h : ¬ event.Acts) :
    Owes before event := by
  cases event with
  | published stage receipt acked => exact absurd (.inl (by simp [Event.publication])) h
  | effect native => exact absurd (.inr (by simp [Event.native])) h
  | runtime value => trivial
  | observed state => trivial
  | failed message => trivial

theorem free_execution : Free ExecutionLaw := fun _ _ h => ⟨owes_of_not_acts h, fun hacts => absurd hacts h⟩

theorem free_recovery (admitted : Prop) : Free (RecoveryLaw admitted) :=
  fun _ _ h => ⟨owes_of_not_acts h, fun hacts => absurd hacts h⟩

/-! ## States -/

/-- A lawful trace with these publications and effects. -/
structure Paced (Law : List Event → Event → Prop) (p : List (Stage × Bool))
    (e : List NativeEffect) (trace : List Event) : Prop where
  lawful : Always Law trace
  published : publications trace = p
  effected : effects trace = e

/-- Where a call dies: lawful, with at least these publications. -/
def Stopped (Law : List Event → Event → Prop) (p : List (Stage × Bool)) (s : ExecState) : Prop :=
  Always Law s.trace ∧ p <+: publications s.trace

section
variable {Law : List Event → Event → Prop} {p q : List (Stage × Bool)} {e : List NativeEffect}
  {trace : List Event} {event : Event} {s : ExecState}

theorem Paced.quiet (h : Paced Law p e trace) (hfree : Free Law) (hquiet : ¬ event.Acts) :
    Paced Law p e (trace ++ [event]) where
  lawful := h.lawful.concat (hfree _ _ hquiet)
  published := by
    obtain ⟨hp, -⟩ := not_or.mp hquiet
    rw [publications, List.filterMap_append, ← publications, h.published]
    simp [not_not.mp hp]
  effected := by
    obtain ⟨-, he⟩ := not_or.mp hquiet
    rw [effects, List.filterMap_append, ← effects, h.effected]
    simp [not_not.mp he]

theorem Paced.publish {stage : Stage} {receipt : Value} {acked : Bool} (h : Paced Law p e trace)
    (hlaw : Law trace (.published stage receipt acked)) :
    Paced Law (p ++ [(stage, acked)]) e (trace ++ [.published stage receipt acked]) where
  lawful := h.lawful.concat hlaw
  published := by simp [publications, Event.publication, ← h.published]
  effected := by simp [effects, Event.native, ← h.effected]

theorem Paced.effect {native : NativeEffect} (h : Paced Law p e trace)
    (hlaw : Law trace (.effect native)) : Paced Law p (e ++ [native]) (trace ++ [.effect native]) where
  lawful := h.lawful.concat hlaw
  published := by simp [publications, Event.publication, ← h.published]
  effected := by simp [effects, Event.native, ← h.effected]

theorem Paced.stopped (h : Paced Law p e s.trace) (hq : q <+: p) : Stopped Law q s :=
  ⟨h.lawful, by rw [h.published]; exact hq⟩

theorem not_acts_failed (message : String) : ¬ (Event.failed message).Acts := by
  simp [Event.Acts, Event.publication, Event.native]

theorem not_acts_runtime (value : Value) : ¬ (Event.runtime value).Acts := by
  simp [Event.Acts, Event.publication, Event.native]

theorem not_acts_observed (state : Value) : ¬ (Event.observed state).Acts := by
  simp [Event.Acts, Event.publication, Event.native]

theorem Stopped.fail (h : Stopped Law q s) (hfree : Free Law) (message : String) :
    Stopped Law q (s.fail message) := by
  refine ⟨h.1.concat (hfree _ _ (not_acts_failed message)), ?_⟩
  have hnone : publications [Event.failed message] = [] := rfl
  show q <+: publications (s.trace ++ [Event.failed message])
  rw [publications, List.filterMap_append, ← publications, ← publications, hnone, List.append_nil]
  exact h.2

/-! ## Parts that do not act -/

variable {α β : Type}

/-- The program keeps publications and effects, whether it returns or dies. -/
def Quiet (m : Exec α) : Prop :=
  ∀ Law p e, Free Law → Keeps (fun s => Paced Law p e s.trace) m

theorem Quiet.bind {m : Exec α} {f : α → Exec β} (hm : Quiet m) (hf : ∀ a, Quiet (f a)) :
    Quiet (m >>= f) :=
  fun Law p e hfree => (hm Law p e hfree).bind fun a => hf a Law p e hfree

theorem quiet_of_silent {m : Exec α} (h : Silent m) : Quiet m := fun _ _ _ _ => h.keeps

theorem quiet_pure (a : α) : Quiet (pure a : Exec α) := quiet_of_silent (silent_pure a)

theorem quiet_read : Quiet (Effects.read : Exec ExecState) := quiet_of_silent fun _ => rfl

theorem quiet_update {f : ExecState → ExecState} (h : ∀ s, (f s).trace = s.trace) :
    Quiet (update f) := by
  intro Law p e _ s hs
  refine outcome_update ?_
  show Paced Law p e (f s).trace
  rw [h]
  exact hs

theorem quiet_emit {event : Event} (h : ¬ event.Acts) : Quiet (emit event) :=
  fun _ _ _ hfree _ hs => outcome_update (hs.quiet hfree h)

theorem quiet_die (message : String) : Quiet (die message : Exec α) :=
  (quiet_emit (not_acts_failed message)).bind fun _ => quiet_of_silent (silent_throwMessage message)

theorem quiet_ask (answer : Except String α) : Quiet (ask answer) := by
  cases answer with
  | ok a => exact quiet_pure a
  | error message => exact quiet_die message

theorem quiet_require (holds : Bool) (message : String) : Quiet (require holds message) := by
  cases holds with
  | true => exact quiet_pure ()
  | false => exact quiet_die message

theorem quiet_note (name : String) (value : Value) : Quiet (note name value) :=
  quiet_update fun _ => rfl

theorem Quiet.attempt {m : Exec α} (h : Quiet m) : Quiet (attempt m) :=
  fun Law p e hfree => (h Law p e hfree).attempt

/-- A quiet part in front of the rest of a call. -/
theorem Quiet.outcome {m : Exec α} {f : α → Exec β} {Q : β → ExecState → Prop} (hm : Quiet m)
    (hfree : Free Law) (hs : Paced Law p e s.trace) (hq : q <+: p)
    (hf : ∀ a s', Paced Law p e s'.trace → Outcome (f a) Q (Stopped Law q) s') :
    Outcome (m >>= f) Q (Stopped Law q) s := by
  have hkept := hm Law p e hfree s hs
  unfold Outcome at hkept
  split at hkept
  · rename_i s' a hrun
    unfold Outcome
    rw [prog_bind_of_ok hrun]
    exact hf a s' hkept
  · rename_i s' message hrun
    unfold Outcome
    rw [prog_bind_of_error hrun]
    exact hkept.stopped hq

variable {env : Env} {vmid : String} {locked : Locked} {message : String}

theorem quiet_reloadConfig (site : LoadSite) : Quiet (reloadConfig env site vmid locked message) :=
  (quiet_ask _).bind fun _ => (quiet_ask _).bind fun _ => (quiet_ask _).bind fun _ =>
    quiet_require _ _

theorem quiet_helperReload : Quiet (helperReload env vmid locked message) :=
  quiet_read.bind fun _ => Quiet.bind (quiet_update fun _ => rfl) fun _ =>
    quiet_reloadConfig _

theorem quiet_cleanupHelper (exact : Bool) : Quiet (cleanupHelper env vmid locked exact) :=
  (quiet_require _ _).bind fun _ => quiet_read.bind fun _ =>
    Quiet.bind (quiet_update fun _ => rfl) fun _ => (quiet_require _ _).bind fun _ =>
      quiet_helperReload

theorem quiet_ipamHelper (exact : Bool) (conf : Value) :
    Quiet (ipamHelper env vmid locked exact conf) :=
  (quiet_require _ _).bind fun _ => quiet_read.bind fun _ =>
    Quiet.bind (quiet_update fun _ => rfl) fun _ => (quiet_require _ _).bind fun _ =>
      (quiet_require _ _).bind fun _ => quiet_helperReload

/-- The native destroy acts on the host, and on the records only through the replaced helpers. -/
theorem quiet_runNative (run : NativeRun) : Quiet (runNative env vmid locked run) := by
  induction run with
  | done outcome => exact quiet_ask outcome
  | cleanupFleecing exact returned died ihr ihd =>
    refine (quiet_cleanupHelper exact).attempt.bind fun result => ?_
    cases result with
    | ok a => exact ihr
    | error m => exact ihd
  | deleteIpams exact conf returned died ihr ihd =>
    refine (quiet_ipamHelper exact conf).attempt.bind fun result => ?_
    cases result with
    | ok a => exact ihr
    | error m => exact ihd

theorem quiet_preflight (txid : String) : Quiet (preflight env vmid txid) := by
  refine (quiet_ask _).bind fun runtime => (quiet_emit (not_acts_runtime runtime)).bind fun _ => ?_
  refine (quiet_require _ _).bind fun _ => (quiet_ask _).bind fun _ => ?_
  refine (quiet_ask _).bind fun _ => (quiet_ask _).bind fun _ => (quiet_ask _).bind fun _ => ?_
  refine (quiet_require _ _).bind fun _ => (quiet_ask _).bind fun _ => ?_
  refine (quiet_require _ _).bind fun _ => (quiet_ask _).bind fun _ => (quiet_ask _).bind fun _ => ?_
  refine (quiet_require _ _).bind fun _ => (quiet_ask _).bind fun _ => (quiet_ask _).bind fun _ => ?_
  refine (quiet_ask _).bind fun _ => (quiet_ask _).bind fun _ => (quiet_ask _).bind fun _ => ?_
  refine (quiet_ask _).bind fun _ => (quiet_ask _).bind fun _ => (quiet_require _ _).bind fun _ => ?_
  refine (quiet_ask _).bind fun _ => (quiet_ask _).bind fun _ => ?_
  exact Quiet.bind (quiet_update fun _ => rfl) fun _ => quiet_pure _

theorem quiet_finalizationState (answer : Except String Value) (receipt : Value) :
    Quiet (finalizationState answer vmid receipt) :=
  (quiet_ask _).bind fun _ => (quiet_ask _).bind fun _ => (quiet_ask _).bind fun _ =>
    (quiet_emit (not_acts_observed _)).bind fun _ => quiet_pure _

theorem outcome_asked {Q : α → ExecState → Prop} {answer : Except String α} (hfree : Free Law)
    (hs : Stopped Law q s) (hok : ∀ a, answer = .ok a → Q a s) :
    Outcome (ask answer) Q (Stopped Law q) s :=
  outcome_ask_cases hok fun m _ => hs.fail hfree m

theorem outcome_required {Q : Unit → ExecState → Prop} {holds : Bool} (hfree : Free Law)
    (hs : Stopped Law q s) (hok : holds = true → Q () s) :
    Outcome (require holds message) Q (Stopped Law q) s :=
  outcome_require_cases hok fun _ => hs.fail hfree _

/-! ## Records -/

theorem outcome_publish {Q : Unit → ExecState → Prop} {answer : Except String Value} {stage : Stage}
    {receipt : Value} (hfree : Free Law) (hs : Paced Law p e s.trace) (hq : q <+: p)
    (hlaw : ∀ receipt acked, Law s.trace (.published stage receipt acked))
    (hok : ∀ s', Paced Law (p ++ [(stage, true)]) e s'.trace → Q () s') :
    Outcome (record answer stage receipt) Q (Stopped Law q) s := by
  refine outcome_bind (outcome_asked hfree (hs.stopped hq) fun receipt _ => ?_)
  refine outcome_bind (outcome_update ?_)
  have hpublished := hs.publish (hlaw receipt (isAck answer))
  have hstopped : Stopped Law q { s with trace := s.trace ++ [.published stage receipt (isAck answer)] } :=
    hpublished.stopped (hq.trans (List.prefix_append _ _))
  refine outcome_bind (outcome_asked hfree hstopped fun _ _ => ?_)
  refine outcome_required hfree hstopped fun hack => hok _ ?_
  rw [hack] at hpublished ⊢
  exact hpublished

/-! ## Finalization -/

/-- After these records a finalization effect may follow an observation of a zombie. -/
def Grants (Law : List Event → Event → Prop) (p : List (Stage × Bool)) : Prop :=
  ∀ before native, native ≠ .destroyVm → publications before = p → ShowsSomeZombie before →
    Law before (.effect native)

variable {receipt zombie state : Value} {answer : Except String Value}

theorem outcome_observed {Q : Value → ExecState → Prop} (hfree : Free Law)
    (hs : Paced Law p e s.trace) (hq : q <+: p)
    (hok : ∀ state s', shown answer vmid receipt zombie = .ok state → Paced Law p e s'.trace →
      lastObserved s'.trace = some state → Q state s') :
    Outcome (observeIdentity answer vmid receipt zombie) Q (Stopped Law q) s := by
  have hobserved := fun state => hs.quiet hfree (not_acts_observed state)
  refine outcome_observe (fun state hshown => ?_) fun t m _ ht => ?_
  · exact hok state _ hshown (hobserved state) lastObserved_observed
  · obtain rfl | ⟨state, rfl⟩ := ht
    · exact (hs.stopped hq).fail hfree m
    · exact Stopped.fail (Paced.stopped (hobserved state) hq) hfree m

theorem outcome_removed {Q : Value → ExecState → Prop} {field : FinalField} {native : NativeEffect}
    {evidenceName nativeName : String} (hfree : Free Law) (hs : Paced Law p e s.trace)
    (hq : q <+: p) (hlaw : Law s.trace (.effect native))
    (hok : ∀ state s', Paced Law p (e ++ [native]) s'.trace → lastObserved s'.trace = some state →
      (state.get field.name).text = "ABSENT" → Q state s') :
    Outcome (removeVerified env vmid receipt zombie field native evidenceName nativeName) Q
      (Stopped Law q) s := by
  have heffect := hs.effect hlaw
  refine outcome_bind (outcome_update (outcome_bind (outcome_update ?_)))
  refine outcome_bind (outcome_asked hfree (Paced.stopped heffect hq)
    fun _ _ => ?_)
  refine outcome_bind (outcome_observed hfree heffect hq fun state s' _ hpaced hlast => ?_)
  refine outcome_bind (outcome_required hfree (hpaced.stopped hq) fun habsent => ?_)
  exact outcome_bind (outcome_update (outcome_pure
    (hok state _ hpaced hlast (of_decide_eq_true habsent))))

/-- What is left besides the configuration belongs to the zombie. -/
theorem showsZombie_of_remaining {field : FinalField} {native : NativeEffect}
    (hnative : (field = .acl ∧ native = .removeVmAccess) ∨
      (field = .firewall ∧ native = .removeVmfwConf))
    (hshown : shown answer vmid receipt zombie = .ok state)
    (hfield : (state.get field.name).text ≠ "ABSENT") : ShowsZombie zombie state := by
  have hconfirmed : Confirmed zombie ([] ++ [.observed state]) (.effect native) :=
    confirmed_scope hnative (shown_eq_ok.mp hshown).2.2.2 hfield
  obtain ⟨-, rfl⟩ | ⟨-, rfl⟩ := hnative
  · obtain ⟨found, hfound, hshows⟩ := hconfirmed
    rw [lastObserved_observed] at hfound
    obtain rfl := Option.some.inj hfound
    exact hshows
  · obtain ⟨found, hfound, hshows⟩ := hconfirmed
    rw [lastObserved_observed] at hfound
    obtain rfl := Option.some.inj hfound
    exact hshows

theorem outcome_removedScoped {Q : Unit → ExecState → Prop} {field : FinalField}
    {native : NativeEffect} {nativeName : String} (hfree : Free Law) (hs : Paced Law p e s.trace)
    (hq : q <+: p) (hgrants : Grants Law p) (hzombie : isZombie zombie = .ok true)
    (hnative : (field = .acl ∧ native = .removeVmAccess) ∨
      (field = .firewall ∧ native = .removeVmfwConf))
    (hok : ∀ s' e', Paced Law p e' s'.trace → Q () s') :
    Outcome (removeScoped env vmid receipt zombie field native nativeName) Q (Stopped Law q) s := by
  refine outcome_bind (outcome_observed hfree hs hq fun state s₁ hshown h₁ hlast => ?_)
  split_ifs with hfield
  · exact outcome_pure (hok s₁ e h₁)
  · have hlaw : Law s₁.trace (.effect native) := by
      refine hgrants _ _ ?_ h₁.published ⟨zombie, state, hzombie, hlast, ?_⟩
      · obtain ⟨-, rfl⟩ | ⟨-, rfl⟩ := hnative <;> decide
      · exact showsZombie_of_remaining hnative hshown hfield
    refine outcome_bind (outcome_removed hfree h₁ hq hlaw fun _ s₂ h₂ _ _ => ?_)
    exact outcome_pure (hok s₂ _ h₂)

theorem outcome_removedConfig {Q : Value → ExecState → Prop} (hfree : Free Law)
    (hs : Paced Law p e s.trace) (hq : q <+: p) (hgrants : Grants Law p)
    (hzombie : isZombie zombie = .ok true) (hlast : lastObserved s.trace = some state)
    (hshown : shown answer vmid receipt zombie = .ok state)
    (hok : ∀ state' s' e', Paced Law p e' s'.trace → lastObserved s'.trace = some state' →
      (state'.get "config").text ≠ "PRESENT" → Q state' s') :
    Outcome (removeConfig env vmid receipt zombie state) Q (Stopped Law q) s := by
  unfold removeConfig
  split_ifs with hpresent
  · have hshows : ShowsZombie zombie state := by
      have hidentity := showsZombie_of_identity (shown_eq_ok.mp hshown).2.2.2
      rwa [if_pos hpresent] at hidentity
    refine outcome_bind (outcome_asked hfree (hs.stopped hq) fun digest _ => ?_)
    refine outcome_bind (outcome_required hfree (hs.stopped hq) fun _ => ?_)
    have hlaw : Law s.trace (.effect .destroyConfig) :=
      hgrants _ _ (by decide) hs.published ⟨zombie, state, hzombie, hlast, hshows⟩
    refine outcome_removed hfree hs hq hlaw fun state' s' h' hlast' habsent => ?_
    refine hok state' s' _ h' hlast' fun heq => ?_
    exact absurd (habsent.symm.trans heq) (by decide)
  · exact outcome_pure (hok state s e hs hlast hpresent)

/-- A finalization that returns has seen everything gone. -/
theorem outcome_finalized {Q : Unit → ExecState → Prop} (hfree : Free Law)
    (hs : Paced Law p e s.trace) (hq : q <+: p) (hgrants : Grants Law p)
    (hzombie : isZombie zombie = .ok true)
    (hok : ∀ s' e', Paced Law p e' s'.trace → ShowsNothing s'.trace → Q () s') :
    Outcome (runFinalization env vmid receipt zombie) Q (Stopped Law q) s := by
  refine outcome_bind (outcome_removedScoped hfree hs hq hgrants hzombie (.inl ⟨rfl, rfl⟩)
    fun s₁ e₁ h₁ => ?_)
  refine outcome_bind (outcome_removedScoped hfree h₁ hq hgrants hzombie (.inr ⟨rfl, rfl⟩)
    fun s₂ e₂ h₂ => ?_)
  refine outcome_bind (outcome_observed hfree h₂ hq fun state s₃ hshown h₃ hlast₃ => ?_)
  refine outcome_bind (outcome_removedConfig hfree h₃ hq hgrants hzombie hlast₃ hshown
    fun state' s₄ e₄ h₄ hlast₄ hconfig => ?_)
  refine outcome_required hfree (h₄.stopped hq) fun hscope => ?_
  simp only [Bool.and_eq_true, decide_eq_true_eq] at hscope
  exact hok s₄ e₄ h₄ ⟨state', hlast₄, hscope, hconfig⟩

end

end SharedLvmThin.VMDestroy
