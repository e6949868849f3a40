import SharedLvmThin.DestroyOrder

/-! What the latest observation has shown when the finalization issues a native effect. Other
actors may change the ACL, the firewall and the configuration between any two observations:
every observation is answered by the environment on its own. -/

namespace SharedLvmThin.VMDestroy
open Perl Effects

def Event.observation : Event → Option Value
  | .observed state => some state
  | _ => none

def lastObserved (before : List Event) : Option Value :=
  (before.filterMap Event.observation).getLast?

/-- The state shows a configuration with exactly the digest of the zombie. -/
def ShowsZombie (zombie state : Value) : Prop :=
  (state.get "config").text = "PRESENT" ∧ digestOf zombie = .ok (state.get "config_sha256").text

def ScopeAbsent (state : Value) : Prop :=
  (state.get "acl").text = "ABSENT" ∧ (state.get "firewall").text = "ABSENT"

/-- Each finalization effect rests on the latest observation before it. -/
def Confirmed (zombie : Value) (before : List Event) (event : Event) : Prop :=
  match event with
  | .effect .destroyConfig =>
    ∃ state, lastObserved before = some state ∧ ScopeAbsent state ∧ ShowsZombie zombie state
  | .effect .removeVmAccess | .effect .removeVmfwConf =>
    ∃ state, lastObserved before = some state ∧ ShowsZombie zombie state
  | _ => True

/-- The events of one finalization. -/
def finalizationTrace (env : Env) (vmid : String) (receipt zombie : Value) (s : ExecState) :
    List Event :=
  (runFinalization env vmid receipt zombie { s with trace := [] }).1.trace

/-! ## Observations that pass -/

/-- The state an answer shows when it passes both checks. -/
def shown (answer : Except String Value) (vmid : String) (receipt zombie : Value) :
    Except String Value := do
  let _ ← receipt.copy
  let state ← answer
  validateFinalizationState vmid state
  assertFinalizationIdentity state zombie
  return state

/-- One round passes: the field is absent at once, or it goes and is then shown absent. -/
def ScopePasses (env : Env) (vmid : String) (receipt zombie : Value) (field : FinalField) : Prop :=
  ∃ state, shown (env.observeBefore field) vmid receipt zombie = .ok state ∧
    ((state.get field.name).text = "ABSENT" ∨
      env.removeEffect field = .ok () ∧
        ∃ state', shown (env.observeAfter field) vmid receipt zombie = .ok state' ∧
          (state'.get field.name).text = "ABSENT")

/-- Both rounds pass, and the observation before the configuration step shows the exact zombie
together with an ACL or a firewall that has come back. -/
def ScopeReturned (env : Env) (vmid : String) (receipt zombie : Value) : Prop :=
  ScopePasses env vmid receipt zombie .acl ∧ ScopePasses env vmid receipt zombie .firewall ∧
    ∃ state, shown (env.observeBefore .config) vmid receipt zombie = .ok state ∧
      (state.get "config").text = "PRESENT" ∧ ¬ ScopeAbsent state

variable {env : Env} {vmid : String} {receipt zombie state : Value} {trace : List Event}
  {s : ExecState} {answer : Except String Value}

@[simp] theorem lastObserved_observed : lastObserved (trace ++ [.observed state]) = some state := by
  simp [lastObserved, Event.observation]

theorem shown_eq_ok :
    shown answer vmid receipt zombie = .ok state ↔
      (∃ copy, receipt.copy = .ok copy) ∧ answer = .ok state ∧
        validateFinalizationState vmid state = .ok () ∧
        assertFinalizationIdentity state zombie = .ok () := by
  simp only [shown, bind_eq_ok]
  constructor
  · rintro ⟨copy, hcopy, found, hfound, u, hvalid, u', hidentity, heq⟩
    cases heq
    exact ⟨⟨copy, hcopy⟩, hfound, hvalid, hidentity⟩
  · rintro ⟨⟨copy, hcopy⟩, hanswer, hvalid, hidentity⟩
    exact ⟨copy, hcopy, state, hanswer, (), hvalid, (), hidentity, rfl⟩

/-- A shown configuration is the exact zombie; where none is shown, nothing else remains. -/
theorem showsZombie_of_identity (h : assertFinalizationIdentity state zombie = .ok ()) :
    if (state.get "config").text = "PRESENT" then ShowsZombie zombie state
    else ScopeAbsent state := by
  unfold assertFinalizationIdentity at h
  split_ifs at h ⊢ with hpresent
  · simp only [bind_eq_ok, dieIf_eq_ok] at h
    obtain ⟨digest, hdigest, hsame⟩ := h
    have hsame : (state.get "config_sha256").text = digest := by simpa using hsame
    exact ⟨hpresent, hdigest.trans (congrArg Except.ok hsame.symm)⟩
  · simp only [dieIf_eq_ok, Bool.or_eq_false_iff, decide_eq_false_iff_not, not_not] at h
    exact h

/-! ## The operations -/

/-- Every effect so far was confirmed. -/
def AllConfirmed (zombie : Value) (s : ExecState) : Prop := Always (Confirmed zombie) s.trace

theorem always_of_append {ε : Type} {Allowed : List ε → ε → Prop} {earlier later : List ε}
    (h : Always Allowed (earlier ++ later)) : Always Allowed earlier := by
  intro before event after heq
  exact h before event (after ++ later) (by rw [heq]; simp)

theorem AllConfirmed.fail (h : AllConfirmed zombie s) (message : String) :
    AllConfirmed zombie (s.fail message) :=
  h.concat trivial

theorem outcome_observe {Q : Value → ExecState → Prop} {E : ExecState → Prop}
    (hok : ∀ state, shown answer vmid receipt zombie = .ok state →
      Q state { s with trace := s.trace ++ [.observed state] })
    (herror : ∀ t message, (∀ state, shown answer vmid receipt zombie ≠ .ok state) →
      (t = s ∨ ∃ state, t = { s with trace := s.trace ++ [.observed state] }) →
      E (t.fail message)) :
    Outcome (observeIdentity answer vmid receipt zombie) Q E s := by
  refine outcome_bind (outcome_bind (outcome_ask_cases (fun copy hcopy => ?_) fun m hm => ?_))
  · refine outcome_bind (outcome_ask_cases (fun state hstate => ?_) fun m hm => ?_)
    · refine outcome_bind (outcome_ask_cases (fun _ hvalid => ?_) fun m hm => ?_)
      · refine outcome_bind (outcome_update (outcome_pure (outcome_bind ?_)))
        refine outcome_ask_cases (fun _ hidentity => ?_) fun m hm => ?_
        · have hshown := shown_eq_ok.mpr ⟨⟨copy, hcopy⟩, hstate, hvalid, hidentity⟩
          exact outcome_pure (hok state hshown)
        · refine herror _ m (fun found hfound => ?_) (Or.inr ⟨state, rfl⟩)
          obtain ⟨-, hfound, -, hidentity⟩ := shown_eq_ok.mp hfound
          rw [hstate] at hfound
          cases hfound
          rw [hidentity] at hm
          cases hm
      · refine herror s m (fun found hfound => ?_) (Or.inl rfl)
        obtain ⟨-, hfound, hvalid, -⟩ := shown_eq_ok.mp hfound
        rw [hstate] at hfound
        cases hfound
        rw [hvalid] at hm
        cases hm
    · refine herror s m (fun found hfound => ?_) (Or.inl rfl)
      rw [(shown_eq_ok.mp hfound).2.1] at hm
      cases hm
  · refine herror s m (fun found hfound => ?_) (Or.inl rfl)
    obtain ⟨⟨copy, hcopy⟩, -⟩ := shown_eq_ok.mp hfound
    rw [hcopy] at hm
    cases hm

theorem AllConfirmed.effect {native : NativeEffect} (h : AllConfirmed zombie s)
    (hnative : Confirmed zombie s.trace (.effect native)) :
    AllConfirmed zombie { s with trace := s.trace ++ [.effect native] } :=
  h.concat hnative

theorem AllConfirmed.observed (h : AllConfirmed zombie s) (state : Value) :
    AllConfirmed zombie { s with trace := s.trace ++ [.observed state] } :=
  h.concat trivial

theorem allConfirmed_stopped {t : ExecState}
    (ht : t = s ∨ ∃ state, t = { s with trace := s.trace ++ [.observed state] })
    (h : AllConfirmed zombie s) (message : String) : AllConfirmed zombie (t.fail message) := by
  obtain rfl | ⟨state, rfl⟩ := ht
  · exact h.fail message
  · exact (h.observed state).fail message

/-- The effect of one round is confirmed: the field is still there, so the state shows the
zombie. -/
theorem confirmed_scope {field : FinalField} {native : NativeEffect}
    (hnative : (field = .acl ∧ native = .removeVmAccess) ∨
      (field = .firewall ∧ native = .removeVmfwConf))
    (hidentity : assertFinalizationIdentity state zombie = .ok ())
    (hfield : (state.get field.name).text ≠ "ABSENT") :
    Confirmed zombie (trace ++ [.observed state]) (.effect native) := by
  have hzombie : ShowsZombie zombie state := by
    have hshows := showsZombie_of_identity hidentity
    split_ifs at hshows
    · exact hshows
    · obtain ⟨rfl, -⟩ | ⟨rfl, -⟩ := hnative
      · exact absurd hshows.1 hfield
      · exact absurd hshows.2 hfield
  obtain ⟨-, rfl⟩ | ⟨-, rfl⟩ := hnative
  · exact ⟨state, lastObserved_observed, hzombie⟩
  · exact ⟨state, lastObserved_observed, hzombie⟩

theorem outcome_scope {field : FinalField} {native : NativeEffect} {nativeName : String}
    (h : AllConfirmed zombie s)
    (hnative : (field = .acl ∧ native = .removeVmAccess) ∨
      (field = .firewall ∧ native = .removeVmfwConf)) :
    Outcome (removeScoped env vmid receipt zombie field native nativeName)
      (fun _ s' => ScopePasses env vmid receipt zombie field ∧ AllConfirmed zombie s')
      (fun s' => ¬ ScopePasses env vmid receipt zombie field ∧ AllConfirmed zombie s') s := by
  refine outcome_bind (outcome_observe (fun state hshown => ?_) fun t m hnone ht => ?_)
  · split_ifs with hfield
    · exact outcome_pure ⟨⟨state, hshown, Or.inl hfield⟩, h.observed state⟩
    · have hidentity := (shown_eq_ok.mp hshown).2.2.2
      have heffect := (h.observed state).effect (confirmed_scope hnative hidentity hfield)
      -- the round passes exactly when the effect returns and the second observation is absent
      have hpasses : ScopePasses env vmid receipt zombie field ↔
          env.removeEffect field = .ok () ∧
            ∃ state', shown (env.observeAfter field) vmid receipt zombie = .ok state' ∧
              (state'.get field.name).text = "ABSENT" := by
        constructor
        · rintro ⟨found, hfound, hor⟩
          rw [hshown] at hfound
          cases hfound
          exact hor.resolve_left hfield
        · intro hafter
          exact ⟨state, hshown, Or.inr hafter⟩
      rw [hpasses]
      refine outcome_bind (outcome_bind (outcome_update (outcome_bind (outcome_update ?_))))
      refine outcome_bind (outcome_ask_cases (fun _ hremove => ?_) fun m hremove => ?_)
      · refine outcome_bind (outcome_observe (fun state' hshown' => ?_) fun t m hnone ht => ?_)
        · refine outcome_bind (outcome_require_cases (fun habsent => ?_) fun hpresent => ?_)
          · refine outcome_bind (outcome_update (outcome_pure (outcome_pure ?_)))
            exact ⟨⟨hremove, state', hshown', of_decide_eq_true habsent⟩, heffect.observed state'⟩
          · refine ⟨?_, (heffect.observed state').fail _⟩
            rintro ⟨-, found, hfound, habsent⟩
            rw [hshown'] at hfound
            cases hfound
            exact of_decide_eq_false hpresent habsent
        · refine ⟨?_, allConfirmed_stopped ht heffect m⟩
          rintro ⟨-, found, hfound, -⟩
          exact hnone found hfound
      · refine ⟨?_, heffect.fail m⟩
        rintro ⟨hok, -⟩
        rw [hok] at hremove
        cases hremove
  · refine ⟨?_, allConfirmed_stopped ht h m⟩
    rintro ⟨found, hfound, -⟩
    exact hnone found hfound

/-! ## The configuration goes last -/

theorem allConfirmed_fail_iff {message : String} :
    AllConfirmed zombie (s.fail message) ↔ AllConfirmed zombie s :=
  ⟨fun h => always_of_append h, fun h => h.fail message⟩

theorem allConfirmed_observed_iff :
    AllConfirmed zombie { s with trace := s.trace ++ [.observed state] } ↔ AllConfirmed zombie s :=
  ⟨fun h => always_of_append h, fun h => h.observed state⟩

/-- Right after an observation of the zombie the configuration may go exactly if that
observation shows the scope absent. -/
theorem allConfirmed_destroyConfig (h : AllConfirmed zombie s) (hzombie : ShowsZombie zombie state)
    (hlast : lastObserved s.trace = some state) :
    AllConfirmed zombie { s with trace := s.trace ++ [.effect .destroyConfig] } ↔
      ScopeAbsent state := by
  constructor
  · intro hall
    obtain ⟨found, hfound, hscope, -⟩ := hall s.trace (.effect .destroyConfig) [] rfl
    rw [hlast] at hfound
    cases hfound
    exact hscope
  · intro hscope
    exact h.effect ⟨state, hlast, hscope, hzombie⟩

theorem outcome_removeVerified_iff {field : FinalField} {native : NativeEffect}
    {evidenceName nativeName : String} {P : Prop}
    (h : AllConfirmed zombie { s with trace := s.trace ++ [.effect native] } ↔ P) :
    Outcome (removeVerified env vmid receipt zombie field native evidenceName nativeName)
      (fun _ s' => AllConfirmed zombie s' ↔ P) (fun s' => AllConfirmed zombie s' ↔ P) s := by
  refine outcome_bind (outcome_update (outcome_bind (outcome_update ?_)))
  refine outcome_bind (outcome_ask_cases (fun _ _ => ?_) fun m _ => ?_)
  · refine outcome_bind (outcome_observe (fun state _ => ?_) fun t m _ ht => ?_)
    · refine outcome_bind (outcome_require_cases (fun _ => ?_) fun _ => ?_)
      · exact outcome_bind (outcome_update (outcome_pure (allConfirmed_observed_iff.trans h)))
      · exact (allConfirmed_fail_iff.trans allConfirmed_observed_iff).trans h
    · obtain rfl | ⟨state, rfl⟩ := ht
      · exact allConfirmed_fail_iff.trans h
      · exact (allConfirmed_fail_iff.trans allConfirmed_observed_iff).trans h
  · exact allConfirmed_fail_iff.trans h

theorem outcome_removeConfig_iff (h : AllConfirmed zombie s)
    (hlast : lastObserved s.trace = some state)
    (hidentity : assertFinalizationIdentity state zombie = .ok ()) {P : Prop}
    (hP : P ↔ ((state.get "config").text = "PRESENT" → ScopeAbsent state)) :
    Outcome (removeConfig env vmid receipt zombie state)
      (fun _ s' => AllConfirmed zombie s' ↔ P) (fun s' => AllConfirmed zombie s' ↔ P) s := by
  have hshows := showsZombie_of_identity hidentity
  unfold removeConfig
  split_ifs at hshows ⊢ with hpresent
  · have hP : P ↔ ScopeAbsent state := hP.trans ⟨fun h => h hpresent, fun h _ => h⟩
    refine outcome_bind (outcome_ask_cases (fun digest hdigest => ?_) fun m hdigest => ?_)
    · have hsame : (state.get "config_sha256").text = digest := by
        rw [hshows.2] at hdigest
        cases hdigest
        rfl
      refine outcome_bind (outcome_require_cases (fun _ => ?_) fun hdiffer => ?_)
      · exact outcome_removeVerified_iff ((allConfirmed_destroyConfig h hshows hlast).trans hP.symm)
      · exact absurd hsame (of_decide_eq_false hdiffer)
    · rw [hshows.2] at hdigest
      cases hdigest
  · exact outcome_pure ⟨fun _ => hP.mpr fun hyes => absurd hyes hpresent, fun _ => h⟩

/-- The whole finalization: it stays confirmed unless the scope returns before its last step. -/
theorem outcome_runFinalization_iff (h : AllConfirmed zombie s) :
    Outcome (runFinalization env vmid receipt zombie)
      (fun _ s' => AllConfirmed zombie s' ↔ ¬ ScopeReturned env vmid receipt zombie)
      (fun s' => AllConfirmed zombie s' ↔ ¬ ScopeReturned env vmid receipt zombie) s := by
  have hquiet : ∀ s' : ExecState, AllConfirmed zombie s' →
      ¬ ScopeReturned env vmid receipt zombie →
      (AllConfirmed zombie s' ↔ ¬ ScopeReturned env vmid receipt zombie) :=
    fun _ hall hnot => ⟨fun _ => hnot, fun _ => hall⟩
  refine outcome_bind ((outcome_scope h (Or.inl ⟨rfl, rfl⟩)).weaken ?_ ?_)
  · rintro - s₁ ⟨hacl, h₁⟩
    refine outcome_bind ((outcome_scope h₁ (Or.inr ⟨rfl, rfl⟩)).weaken ?_ ?_)
    · rintro - s₂ ⟨hfirewall, h₂⟩
      refine outcome_bind (outcome_observe (fun state hshown => ?_) fun t m hnone ht => ?_)
      · have hreturned : ¬ ScopeReturned env vmid receipt zombie ↔
            ((state.get "config").text = "PRESENT" → ScopeAbsent state) := by
          constructor
          · intro hnot hpresent
            by_contra hscope
            exact hnot ⟨hacl, hfirewall, state, hshown, hpresent, hscope⟩
          · rintro hscope ⟨-, -, found, hfound, hpresent, hnot⟩
            rw [hshown] at hfound
            cases hfound
            exact hnot (hscope hpresent)
        have hidentity := (shown_eq_ok.mp hshown).2.2.2
        refine outcome_bind ((outcome_removeConfig_iff (h₂.observed state) lastObserved_observed
          hidentity hreturned).weaken (fun state' s₃ h₃ => ?_) fun _ h₃ => h₃)
        exact outcome_require_cases (fun _ => h₃) fun _ => allConfirmed_fail_iff.trans h₃
      · refine hquiet _ (allConfirmed_stopped ht h₂ m) ?_
        rintro ⟨-, -, found, hfound, -⟩
        exact hnone found hfound
    · rintro s₂ ⟨hfirewall, h₂⟩
      exact hquiet s₂ h₂ fun hreturned => hfirewall hreturned.2.1
  · rintro s₁ ⟨hacl, h₁⟩
    exact hquiet s₁ h₁ fun hreturned => hacl hreturned.1

theorem allConfirmed_runFinalization (h : AllConfirmed zombie s) :
    AllConfirmed zombie (runFinalization env vmid receipt zombie s).1 ↔
      ¬ ScopeReturned env vmid receipt zombie :=
  (outcome_runFinalization_iff h).final (fun _ _ h => h) fun _ h => h

/-- For every sequence of observations each finalization effect rests on the latest one, exactly
unless the ACL or the firewall has come back when the configuration is observed for its removal. -/
theorem finalization_confirmed_iff :
    Always (Confirmed zombie) (finalizationTrace env vmid receipt zombie s) ↔
      ¬ ScopeReturned env vmid receipt zombie :=
  allConfirmed_runFinalization (s := { s with trace := [] }) always_nil

/-! A firewall file written again while the configuration is still the zombie. -/

def zombieConfig : Value := .hash [("lock", .str "destroyed")]

def zombieState (acl firewall : String) : Value :=
  .hash [("vmid", .num "101"), ("acl", .str acl), ("firewall", .str firewall),
    ("config", .str "PRESENT"),
    ("config_sha256", .str "a6a2e66be4cf2fe4e3d67f2e4f462eeb0e82c50dc23820561c9d5c4909445ec6")]

def firewallReturns : Env :=
  { disklessEnv (.ok disklessConfig) "PRESENT" with
    observeBefore := fun field => match field with
      | .acl => .ok (zombieState "PRESENT" "PRESENT")
      | .firewall => .ok (zombieState "ABSENT" "PRESENT")
      | .config => .ok (zombieState "ABSENT" "PRESENT") }

theorem digestOf_zombieConfig : digestOf zombieConfig =
    .ok "a6a2e66be4cf2fe4e3d67f2e4f462eeb0e82c50dc23820561c9d5c4909445ec6" := by
  decide +kernel

theorem shown_zombieState {acl firewall : String}
    (hvalid : validateFinalizationState "101" (zombieState acl firewall) = .ok ()) :
    shown (.ok (zombieState acl firewall)) "101" (.hash []) zombieConfig =
      .ok (zombieState acl firewall) := by
  refine shown_eq_ok.mpr ⟨⟨_, rfl⟩, rfl, hvalid, ?_⟩
  have hpresent : ((zombieState acl firewall).get "config").text = "PRESENT" := rfl
  rw [assertFinalizationIdentity, if_pos hpresent, digestOf_zombieConfig]
  rfl

theorem scope_returned : ScopeReturned firewallReturns "101" (.hash []) zombieConfig := by
  refine ⟨?_, ?_, ?_⟩
  · refine ⟨_, shown_zombieState (by decide +kernel), Or.inr ⟨rfl, ?_⟩⟩
    exact ⟨zombieState "ABSENT" "PRESENT", shown_zombieState (by decide +kernel), rfl⟩
  · refine ⟨_, shown_zombieState (by decide +kernel), Or.inr ⟨rfl, ?_⟩⟩
    exact ⟨zombieState "ABSENT" "ABSENT", shown_zombieState (by decide +kernel), rfl⟩
  · refine ⟨_, shown_zombieState (by decide +kernel), rfl, fun hscope => ?_⟩
    exact absurd hscope.2 (by decide +kernel)

theorem not_confirmed_of_returned (h : ScopeReturned env vmid receipt zombie) :
    ¬ Always (Confirmed zombie) (finalizationTrace env vmid receipt zombie s) := fun hall =>
  (allConfirmed_runFinalization (s := { s with trace := [] }) always_nil).mp hall h

theorem config_removed_under_firewall :
    ¬ Always (Confirmed zombieConfig)
      (finalizationTrace firewallReturns "101" (.hash []) zombieConfig idle) :=
  not_confirmed_of_returned scope_returned

end SharedLvmThin.VMDestroy
