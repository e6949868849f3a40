import SharedLvmThin.DestroyExecutor

/-! The law of an execution trace and the operations that keep it. Each event is judged by
the events before it; after the first failure only one record may follow. -/

namespace SharedLvmThin.VMDestroy
open Perl Effects

/-! ## What an event needs -/

def Clear (trace : List Event) : Prop := ∀ message, Event.failed message ∉ trace

def Acked (trace : List Event) (stage : Stage) : Prop :=
  ∃ receipt, Event.published stage receipt true ∈ trace

def runtimes (trace : List Event) : List Value :=
  trace.filterMap fun event => match event with
    | .runtime value => some value
    | _ => none

def AllAbsent (state : Value) : Prop :=
  (state.get "acl").text = "ABSENT" ∧ (state.get "firewall").text = "ABSENT" ∧
    (state.get "config").text = "ABSENT"

def Event.isFailure : Event → Bool
  | .failed _ => true
  | _ => false

def Event.isStorageAck : Event → Bool
  | .published .storageAbsent _ true => true
  | _ => false

def sinceFailure (trace : List Event) : List Event := trace.dropWhile fun event => !event.isFailure

def Ordered (before : List Event) (event : Event) : Prop :=
  match event with
  | .effect .destroyVm =>
    Event.effect .destroyVm ∉ before ∧ Acked before .prepared ∧ Acked before .dispatched ∧
      ∃ first second text, runtimes before = [first, second] ∧ first.canonical = .ok text ∧
        second.canonical = .ok text
  | .effect _ => Acked before .storageAbsent ∧ Acked before .finalizing
  | .published .complete _ _ =>
    ∃ earlier state, before = earlier ++ [.observed state] ∧ AllAbsent state
  | _ => True

/-- After a failure no effect, and one record whose stage the storage proof decides. -/
def FailStop (before : List Event) (event : Event) : Prop :=
  ¬ Clear before →
    match event with
    | .effect _ => False
    | .published stage _ _ =>
      (∀ stage' receipt acked, Event.published stage' receipt acked ∉ sinceFailure before) ∧
        (Acked before .storageAbsent → stage = .finalizing) ∧
        (¬ Acked before .storageAbsent → stage = .partialOrUnknown)
    | _ => True

/-! ## Invariants of a running and of a failed execution -/

structure Going (trace : List Event) (storageAbsent : Bool) : Prop where
  ordered : Always Ordered trace
  stopped : Always FailStop trace
  clear : Clear trace
  flag : storageAbsent = true ↔ Acked trace .storageAbsent

structure Dead (trace : List Event) (storageAbsent : Bool) : Prop where
  ordered : Always Ordered trace
  stopped : Always FailStop trace
  quiet : ∃ earlier message later, trace = earlier ++ .failed message :: later ∧ Clear earlier ∧
    ∀ event ∈ later, event.isFailure = true
  flag : storageAbsent = true ↔ Acked trace .storageAbsent

variable {trace : List Event} {flag : Bool} {event : Event}

theorem clear_concat (h : Clear trace) (he : event.isFailure = false) : Clear (trace ++ [event]) := by
  intro message hmem
  obtain hmem | hmem := List.mem_append.mp hmem
  · exact h message hmem
  · rw [List.mem_singleton] at hmem
    subst hmem
    cases he

theorem acked_concat {stage : Stage} :
    Acked (trace ++ [event]) stage ↔
      Acked trace stage ∨ ∃ receipt, event = .published stage receipt true := by
  simp only [Acked, List.mem_append, List.mem_singleton, exists_or]
  refine or_congr_right ?_
  exact exists_congr fun receipt => eq_comm

theorem Acked.concat {stage : Stage} (h : Acked trace stage) : Acked (trace ++ [event]) stage :=
  acked_concat.mpr (Or.inl h)

/-- A legal event that is neither a failure nor the storage record keeps the execution going. -/
theorem Going.concat (h : Going trace flag) (event : Event) (hlegal : Ordered trace event)
    (he : event.isFailure = false) (hstorage : event.isStorageAck = false) :
    Going (trace ++ [event]) flag where
  ordered := h.ordered.concat hlegal
  stopped := h.stopped.concat fun hnot => absurd h.clear hnot
  clear := clear_concat h.clear he
  flag := by
    rw [h.flag, acked_concat]
    refine ⟨Or.inl, fun hor => hor.resolve_right ?_⟩
    intro hack
    obtain ⟨receipt, rfl⟩ := hack
    cases hstorage

theorem acked_failed {stage : Stage} {message : String} :
    Acked (trace ++ [.failed message]) stage ↔ Acked trace stage := by
  rw [acked_concat]
  refine ⟨fun hor => hor.resolve_right ?_, Or.inl⟩
  intro h
  obtain ⟨receipt, heq⟩ := h
  cases heq

/-- One more failure is fatal. -/
def CanDie (trace : List Event) (flag : Bool) : Prop :=
  ∀ message, Dead (trace ++ [.failed message]) flag

theorem Going.canDie (h : Going trace flag) : CanDie trace flag := by
  intro message
  refine ⟨h.ordered.concat trivial, h.stopped.concat fun _ => trivial, ?_, ?_⟩
  · exact ⟨trace, message, [], rfl, h.clear, by simp⟩
  · rw [acked_failed]
    exact h.flag

theorem Dead.canDie (h : Dead trace flag) : CanDie trace flag := by
  intro message
  refine ⟨h.ordered.concat trivial, h.stopped.concat fun _ => trivial, ?_, ?_⟩
  · obtain ⟨earlier, first, later, rfl, hclear, hlater⟩ := h.quiet
    refine ⟨earlier, first, later ++ [.failed message], by simp, hclear, ?_⟩
    intro event hmem
    obtain hmem | hmem := List.mem_append.mp hmem
    · exact hlater event hmem
    · rw [List.mem_singleton] at hmem
      subst hmem
      rfl
  · rw [acked_failed]
    exact h.flag

/-! ## The operations -/

def DeadState (s : ExecState) : Prop := Dead s.trace s.storageAbsent

variable {s : ExecState} {α : Type} {message : String}

def ExecState.fail (s : ExecState) (message : String) : ExecState :=
  { s with trace := s.trace ++ [.failed message] }

theorem outcome_die {Q : α → ExecState → Prop} {E : ExecState → Prop} (h : E (s.fail message)) :
    Outcome (die message) Q E s := h

theorem outcome_ask_cases {Q : α → ExecState → Prop} {E : ExecState → Prop}
    {answer : Except String α} (hok : ∀ a, answer = .ok a → Q a s)
    (herror : ∀ message, answer = .error message → E (s.fail message)) :
    Outcome (ask answer) Q E s := by
  cases answer with
  | error message => exact outcome_die (herror message rfl)
  | ok a => exact hok a rfl

theorem outcome_require_cases {Q : Unit → ExecState → Prop} {E : ExecState → Prop} {holds : Bool}
    (hok : holds = true → Q () s) (hfalse : holds = false → E (s.fail message)) :
    Outcome (require holds message) Q E s := by
  cases holds with
  | false => exact outcome_die (hfalse rfl)
  | true => exact hok rfl

theorem outcome_ask {Q : α → ExecState → Prop} {answer : Except String α}
    (h : CanDie s.trace s.storageAbsent) (hok : ∀ a, answer = .ok a → Q a s) :
    Outcome (ask answer) Q DeadState s :=
  outcome_ask_cases hok fun message _ => h message

theorem outcome_require {Q : Unit → ExecState → Prop} {holds : Bool}
    (h : CanDie s.trace s.storageAbsent) (hok : holds = true → Q () s) :
    Outcome (require holds message) Q DeadState s :=
  outcome_require_cases hok fun _ => h message

theorem outcome_record {Q : Unit → ExecState → Prop} {answer : Except String Value}
    {stage : Stage} {receipt : Value} (hgo : Going s.trace s.storageAbsent)
    (hlegal : ∀ receipt acked, Ordered s.trace (.published stage receipt acked))
    (hok : ∀ receipt, Q () { s with trace := s.trace ++ [.published stage receipt true] }) :
    Outcome (record answer stage receipt) Q DeadState s := by
  refine outcome_bind (outcome_ask hgo.canDie fun receipt _ => ?_)
  refine outcome_bind (outcome_update ?_)
  cases hack : isAck answer with
  | false =>
    have hdie := (hgo.concat _ (hlegal receipt false) rfl (by cases stage <;> rfl)).canDie
    exact outcome_bind (outcome_ask hdie fun _ _ => outcome_require hdie fun h => by cases h)
  | true =>
    cases answer with
    | error m => cases hack
    | ok v => exact hok receipt

/-! ## Finalization -/

structure Finalizing (trace : List Event) (flag : Bool) : Prop where
  going : Going trace flag
  storage : Acked trace .storageAbsent
  final : Acked trace .finalizing

theorem Finalizing.concat (h : Finalizing trace flag) (event : Event)
    (hlegal : Ordered trace event) (he : event.isFailure = false)
    (hstorage : event.isStorageAck = false) : Finalizing (trace ++ [event]) flag :=
  ⟨h.going.concat event hlegal he hstorage, h.storage.concat, h.final.concat⟩

theorem Finalizing.observed (h : Finalizing trace flag) (state : Value) :
    Finalizing (trace ++ [.observed state]) flag :=
  h.concat _ trivial rfl rfl

theorem Finalizing.effect (h : Finalizing trace flag) {native : NativeEffect}
    (hnative : native ≠ .destroyVm) : Finalizing (trace ++ [.effect native]) flag := by
  refine h.concat _ ?_ rfl rfl
  cases native with
  | destroyVm => exact absurd rfl hnative
  | removeVmAccess => exact ⟨h.storage, h.final⟩
  | removeVmfwConf => exact ⟨h.storage, h.final⟩
  | destroyConfig => exact ⟨h.storage, h.final⟩

variable {env : Env} {vmid : String} {receipt zombie : Value}

theorem outcome_observeIdentity {Q : Value → ExecState → Prop} {answer : Except String Value}
    (h : Finalizing s.trace s.storageAbsent)
    (hok : ∀ state, answer = .ok state → validateFinalizationState vmid state = .ok () →
      Q state { s with trace := s.trace ++ [.observed state] }) :
    Outcome (observeIdentity answer vmid receipt zombie) Q DeadState s := by
  have hdie := h.going.canDie
  refine outcome_bind (outcome_bind (outcome_ask hdie fun _ _ => ?_))
  refine outcome_bind (outcome_ask hdie fun state hstate => ?_)
  refine outcome_bind (outcome_ask hdie fun _ hvalid => ?_)
  refine outcome_bind (outcome_update ?_)
  refine outcome_pure (outcome_bind (outcome_ask (h.observed state).going.canDie fun _ _ => ?_))
  exact outcome_pure (hok state hstate hvalid)

theorem outcome_removeVerified {Q : Value → ExecState → Prop} {field : FinalField}
    {native : NativeEffect} {evidenceName nativeName : String}
    (h : Finalizing s.trace s.storageAbsent) (hnative : native ≠ .destroyVm)
    (hok : ∀ state s', Finalizing s'.trace s'.storageAbsent →
      (∃ earlier, s'.trace = earlier ++ [.observed state]) →
      (state.get field.name).text = "ABSENT" → Q state s') :
    Outcome (removeVerified env vmid receipt zombie field native evidenceName nativeName) Q
      DeadState s := by
  have heffect := h.effect hnative
  refine outcome_bind (outcome_update (outcome_bind (outcome_update ?_)))
  refine outcome_bind (outcome_ask heffect.going.canDie fun _ _ => ?_)
  refine outcome_bind (outcome_observeIdentity heffect fun state _ _ => ?_)
  have hobserved := heffect.observed state
  refine outcome_bind (outcome_require hobserved.going.canDie fun habsent => ?_)
  refine outcome_bind (outcome_update (outcome_pure ?_))
  exact hok state _ hobserved ⟨_, rfl⟩ (of_decide_eq_true habsent)

theorem outcome_removeScoped {Q : Unit → ExecState → Prop} {field : FinalField}
    {native : NativeEffect} {nativeName : String} (h : Finalizing s.trace s.storageAbsent)
    (hnative : native ≠ .destroyVm)
    (hok : ∀ s', Finalizing s'.trace s'.storageAbsent → Q () s') :
    Outcome (removeScoped env vmid receipt zombie field native nativeName) Q DeadState s := by
  refine outcome_bind (outcome_observeIdentity h fun state _ _ => ?_)
  split_ifs
  · exact outcome_pure (hok _ (h.observed state))
  · refine outcome_bind (outcome_removeVerified (h.observed state) hnative fun _ s' h' _ _ => ?_)
    exact outcome_pure (hok s' h')

/-- A valid presence that is not `PRESENT` and has no final line feed is `ABSENT`. -/
theorem absent_of_valid {state : Value} (hvalid : validateFinalizationState vmid state = .ok ())
    (hline : ¬ EndsInNewline (state.get "config").text)
    (hnot : (state.get "config").text ≠ "PRESENT") : (state.get "config").text = "ABSENT" := by
  simp only [validateFinalizationState, bind_eq_ok, dieIf_eq_ok, forEach_eq_ok] at hvalid
  obtain ⟨-, -, -, hwords, -⟩ := hvalid
  have hword := hwords "config" (by decide)
  simp only [Bool.not_eq_false', isPresence, body_eq_self hline, decide_eq_true_eq] at hword
  simpa [hnot] using hword

theorem outcome_removeConfig {Q : Value → ExecState → Prop} {state : Value}
    (h : Finalizing s.trace s.storageAbsent)
    (hlast : ∃ earlier, s.trace = earlier ++ [.observed state])
    (hvalid : validateFinalizationState vmid state = .ok ())
    (hline : ¬ EndsInNewline (state.get "config").text)
    (hok : ∀ state' s', Finalizing s'.trace s'.storageAbsent →
      (∃ earlier, s'.trace = earlier ++ [.observed state']) →
      (state'.get "config").text = "ABSENT" → Q state' s') :
    Outcome (removeConfig env vmid receipt zombie state) Q DeadState s := by
  unfold removeConfig
  split_ifs with hpresent
  · refine outcome_bind (outcome_ask h.going.canDie fun digest _ => ?_)
    refine outcome_bind (outcome_require h.going.canDie fun _ => ?_)
    exact outcome_removeVerified h (by decide) hok
  · exact outcome_pure (hok state s h hlast (absent_of_valid hvalid hline hpresent))

theorem outcome_runFinalization {Q : Unit → ExecState → Prop}
    (h : Finalizing s.trace s.storageAbsent)
    (hline : ∀ state, env.observeBefore .config = .ok state →
      ¬ EndsInNewline (state.get "config").text)
    (hok : ∀ state s', Finalizing s'.trace s'.storageAbsent →
      (∃ earlier, s'.trace = earlier ++ [.observed state]) → AllAbsent state → Q () s') :
    Outcome (runFinalization env vmid receipt zombie) Q DeadState s := by
  refine outcome_bind (outcome_removeScoped h (by decide) fun s₁ h₁ => ?_)
  refine outcome_bind (outcome_removeScoped h₁ (by decide) fun s₂ h₂ => ?_)
  refine outcome_bind (outcome_observeIdentity h₂ fun state hstate hvalid => ?_)
  refine outcome_bind (outcome_removeConfig (h₂.observed state) ⟨_, rfl⟩ hvalid
    (hline state hstate) fun state' s₃ h₃ hlast habsent => ?_)
  refine outcome_require h₃.going.canDie fun hscoped => ?_
  simp only [Bool.and_eq_true, decide_eq_true_eq] at hscoped
  exact hok state' s₃ h₃ hlast ⟨hscoped.1, hscoped.2, habsent⟩

/-! ## The native call -/

structure Counts where
  cleanups : ℕ
  ipams : ℕ
  loads : ℕ

def ExecState.counts (s : ExecState) : Counts := ⟨s.cleanupCalls, s.ipamCalls, s.helperLoads⟩

/-- The configuration a helper loads passes and reads like the locked one. -/
def helperConfigHolds (env : Env) (vmid : String) (n : ℕ) : Bool :=
  match env.loadConfig (.helper n), env.loadConfig .locked, env.storageConfig with
  | .ok current, .ok conf, .ok storecfg =>
    match configVolids (env.parsers (.helper n)) vmid current storecfg, current.canonical,
        conf.canonical with
    | .ok _, .ok text, .ok before => text = before
    | _, _, _ => false
  | _, _, _ => false

/-- Whether the cleanup helper returns, and the counts it leaves. -/
def cleanupReturns (env : Env) (vmid : String) (exact : Bool) (c : Counts) : Bool × Counts :=
  if !exact then (false, c)
  else if c.cleanups ≠ 0 then (false, { c with cleanups := c.cleanups + 1 })
  else (helperConfigHolds env vmid c.loads,
    { c with cleanups := c.cleanups + 1, loads := c.loads + 1 })

def ipamReturns (env : Env) (vmid : String) (exact : Bool) (conf : Value) (c : Counts) :
    Bool × Counts :=
  if !(exact && conf.isHash) then (false, c)
  else if c.ipams ≠ 0 then (false, { c with ipams := c.ipams + 1 })
  else if conf.fields.any fun field => isNetKey field.1 then
    (false, { c with ipams := c.ipams + 1 })
  else (helperConfigHolds env vmid c.loads, { c with ipams := c.ipams + 1, loads := c.loads + 1 })

/-- `destroy_vm` returns although one of the replaced helpers died inside it. -/
def NativeRun.swallows (env : Env) (vmid : String) : NativeRun → Counts → Bool → Bool
  | .done outcome, _, failed => failed && outcome.isOk
  | .cleanupFleecing exact returned died, c, failed =>
    match cleanupReturns env vmid exact c with
    | (true, c') => returned.swallows env vmid c' failed
    | (false, c') => died.swallows env vmid c' true
  | .deleteIpams exact conf returned died, c, failed =>
    match ipamReturns env vmid exact conf c with
    | (true, c') => returned.swallows env vmid c' failed
    | (false, c') => died.swallows env vmid c' true

/-- What the preflight read from the environment. -/
structure Locked.From (locked : Locked) (env : Env) : Prop where
  config : ∃ conf, env.loadConfig .locked = .ok conf ∧ conf.canonical = .ok locked.before
  storage : env.storageConfig = .ok locked.storecfg

variable {locked : Locked}

/-- A helper either returns and leaves the trace alone or dies, exactly as predicted. -/
def HelperReturned (s : ExecState) (r : Bool × Counts) (s' : ExecState) : Prop :=
  r = (true, s'.counts) ∧ s'.trace = s.trace ∧ s'.storageAbsent = s.storageAbsent

def HelperDied (r : Bool × Counts) (flag : Bool) (s' : ExecState) : Prop :=
  r = (false, s'.counts) ∧ DeadState s' ∧ s'.storageAbsent = flag

theorem outcome_helperReload {c : Counts} (hfrom : locked.From env) (hdie : CanDie s.trace s.storageAbsent)
    (hc : c = { s.counts with loads := s.helperLoads + 1 }) :
    Outcome (helperReload env vmid locked message)
      (fun _ => HelperReturned s (helperConfigHolds env vmid s.helperLoads, c))
      (HelperDied (helperConfigHolds env vmid s.helperLoads, c) s.storageAbsent) s := by
  obtain ⟨⟨conf, hconf, hbefore⟩, hstorage⟩ := hfrom
  subst hc
  refine outcome_bind (outcome_read (outcome_bind (outcome_update ?_)))
  refine outcome_bind (outcome_ask_cases (fun current hcurrent => ?_) fun m herror => ?_)
  · refine outcome_bind (outcome_ask_cases (fun volids hvolids => ?_) fun m herror => ?_)
    · refine outcome_bind (outcome_ask_cases (fun text htext => ?_) fun m herror => ?_)
      · refine outcome_require_cases (fun hsame => ?_) fun hdiffer => ?_
        · simp only [helperConfigHolds, hcurrent, hconf, hstorage, hvolids, htext, hbefore, hsame]
          exact ⟨rfl, rfl, rfl⟩
        · simp only [helperConfigHolds, hcurrent, hconf, hstorage, hvolids, htext, hbefore, hdiffer]
          exact ⟨rfl, hdie _, rfl⟩
      · simp only [helperConfigHolds, hcurrent, hconf, hstorage, hvolids, herror]
        exact ⟨rfl, hdie _, rfl⟩
    · simp only [helperConfigHolds, hcurrent, hconf, hstorage, herror]
      exact ⟨rfl, hdie _, rfl⟩
  · simp only [helperConfigHolds, herror]
    exact ⟨rfl, hdie _, rfl⟩

theorem outcome_cleanupHelper {exact : Bool} (hfrom : locked.From env)
    (hdie : CanDie s.trace s.storageAbsent) :
    Outcome (cleanupHelper env vmid locked exact)
      (fun _ => HelperReturned s (cleanupReturns env vmid exact s.counts))
      (HelperDied (cleanupReturns env vmid exact s.counts) s.storageAbsent) s := by
  refine outcome_bind (outcome_require_cases (fun hexact => ?_) fun hexact => ?_)
  · refine outcome_bind (outcome_read (outcome_bind (outcome_update ?_)))
    refine outcome_bind (outcome_require_cases (fun hfirst => ?_) fun hagain => ?_)
    · have hfirst : s.cleanupCalls = 0 := of_decide_eq_true hfirst
      have hret : cleanupReturns env vmid exact s.counts =
          (helperConfigHolds env vmid s.helperLoads,
            ⟨s.cleanupCalls + 1, s.ipamCalls, s.helperLoads + 1⟩) := by
        simp [cleanupReturns, hexact, hfirst, ExecState.counts]
      rw [hret]
      exact outcome_helperReload hfrom hdie rfl
    · have hagain : s.cleanupCalls ≠ 0 := of_decide_eq_false hagain
      have hret : cleanupReturns env vmid exact s.counts =
          (false, ⟨s.cleanupCalls + 1, s.ipamCalls, s.helperLoads⟩) := by
        simp [cleanupReturns, hexact, hagain, ExecState.counts]
      rw [hret]
      exact ⟨rfl, hdie _, rfl⟩
  · have hret : cleanupReturns env vmid exact s.counts = (false, s.counts) := by
      simp [cleanupReturns, hexact]
    rw [hret]
    exact ⟨rfl, hdie _, rfl⟩

theorem outcome_ipamHelper {exact : Bool} {conf : Value} (hfrom : locked.From env)
    (hdie : CanDie s.trace s.storageAbsent) :
    Outcome (ipamHelper env vmid locked exact conf)
      (fun _ => HelperReturned s (ipamReturns env vmid exact conf s.counts))
      (HelperDied (ipamReturns env vmid exact conf s.counts) s.storageAbsent) s := by
  refine outcome_bind (outcome_require_cases (fun hexact => ?_) fun hexact => ?_)
  · refine outcome_bind (outcome_read (outcome_bind (outcome_update ?_)))
    refine outcome_bind (outcome_require_cases (fun hfirst => ?_) fun hagain => ?_)
    · have hfirst : s.ipamCalls = 0 := of_decide_eq_true hfirst
      refine outcome_bind (outcome_require_cases (fun hnet => ?_) fun hnet => ?_)
      · have hnet : (conf.fields.any fun field => isNetKey field.1) = false := by simpa using hnet
        have hret : ipamReturns env vmid exact conf s.counts =
            (helperConfigHolds env vmid s.helperLoads,
              ⟨s.cleanupCalls, s.ipamCalls + 1, s.helperLoads + 1⟩) := by
          simp [ipamReturns, hexact, hfirst, hnet, ExecState.counts]
        rw [hret]
        exact outcome_helperReload hfrom hdie rfl
      · have hnet : (conf.fields.any fun field => isNetKey field.1) = true := by simpa using hnet
        have hret : ipamReturns env vmid exact conf s.counts =
            (false, ⟨s.cleanupCalls, s.ipamCalls + 1, s.helperLoads⟩) := by
          simp [ipamReturns, hexact, hfirst, hnet, ExecState.counts]
        rw [hret]
        exact ⟨rfl, hdie _, rfl⟩
    · have hagain : s.ipamCalls ≠ 0 := of_decide_eq_false hagain
      have hret : ipamReturns env vmid exact conf s.counts =
          (false, ⟨s.cleanupCalls, s.ipamCalls + 1, s.helperLoads⟩) := by
        simp [ipamReturns, hexact, hagain, ExecState.counts]
      rw [hret]
      exact ⟨rfl, hdie _, rfl⟩
  · have hret : ipamReturns env vmid exact conf s.counts = (false, s.counts) := by
      simp [ipamReturns, hexact]
    rw [hret]
    exact ⟨rfl, hdie _, rfl⟩

/-- Under a native call that swallows nothing the trace is untouched or the execution is dead.
The induction is on the native run; `failed` says that a helper has died on the way. -/
theorem outcome_runNative (hfrom : locked.From env) {run : NativeRun} {t : List Event} :
    ∀ {s : ExecState} {failed : Bool}, CanDie s.trace s.storageAbsent →
      (failed = false → s.trace = t) → run.swallows env vmid s.counts failed = false →
      Outcome (runNative env vmid locked run)
        (fun _ s' => s'.trace = t ∧ s'.storageAbsent = s.storageAbsent) DeadState s := by
  induction run with
  | done outcome =>
    intro s failed hdie htrace hswallow
    refine outcome_ask hdie fun a ha => ?_
    subst ha
    cases failed with
    | false => exact ⟨htrace rfl, rfl⟩
    | true => cases hswallow
  | cleanupFleecing exact returned died ihr ihd =>
    intro s failed hdie htrace hswallow
    simp only [NativeRun.swallows] at hswallow
    refine outcome_bind (outcome_attempt ((outcome_cleanupHelper hfrom hdie).weaken ?_ ?_))
    · intro _ s' hret
      obtain ⟨hr, hsame, hflag⟩ := hret
      rw [hr] at hswallow
      rw [← hflag]
      exact ihr (by rw [hsame, hflag]; exact hdie) (fun hf => hsame.trans (htrace hf)) hswallow
    · intro s' hdied m
      obtain ⟨hr, hdead, hflag⟩ := hdied
      rw [hr] at hswallow
      rw [← hflag]
      exact ihd (Dead.canDie hdead) (fun hf => by cases hf) hswallow
  | deleteIpams exact conf returned died ihr ihd =>
    intro s failed hdie htrace hswallow
    simp only [NativeRun.swallows] at hswallow
    refine outcome_bind (outcome_attempt ((outcome_ipamHelper hfrom hdie).weaken ?_ ?_))
    · intro _ s' hret
      obtain ⟨hr, hsame, hflag⟩ := hret
      rw [hr] at hswallow
      rw [← hflag]
      exact ihr (by rw [hsame, hflag]; exact hdie) (fun hf => hsame.trans (htrace hf)) hswallow
    · intro s' hdied m
      obtain ⟨hr, hdead, hflag⟩ := hdied
      rw [hr] at hswallow
      rw [← hflag]
      exact ihd (Dead.canDie hdead) (fun hf => by cases hf) hswallow

end SharedLvmThin.VMDestroy
