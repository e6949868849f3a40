import SharedLvmThin.DestroySteps

/-! Every execution of the guarded destroy is lawful, unless the native code hides the death of
a replaced helper or an observation ends in a line feed. -/

namespace SharedLvmThin.VMDestroy
open Perl Effects

variable {trace : List Event} {flag : Bool} {event : Event} {s : ExecState} {message : String}
  {env : Env} {vmid : String} {locked : Locked}

theorem outcome_reloadConfig {Q : Unit → ExecState → Prop} {site : LoadSite}
    (hdie : CanDie s.trace s.storageAbsent) (hok : Q () s) :
    Outcome (reloadConfig env site vmid locked message) Q DeadState s := by
  refine outcome_bind (outcome_ask hdie fun _ _ => ?_)
  refine outcome_bind (outcome_ask hdie fun _ _ => ?_)
  refine outcome_bind (outcome_ask hdie fun _ _ => ?_)
  exact outcome_require hdie fun _ => hok

theorem going_nil : Going [] false :=
  ⟨always_nil, always_nil, fun _ => List.not_mem_nil, by simp [Acked]⟩

theorem outcome_preflight {Q : Locked → ExecState → Prop} {txid : String} (htrace : s.trace = [])
    (hflag : s.storageAbsent = false)
    (hok : ∀ locked s', locked.From env → s'.trace = [.runtime locked.runtime] →
      s'.storageAbsent = false → Q locked s') :
    Outcome (preflight env vmid txid) Q DeadState s := by
  have hempty : CanDie s.trace s.storageAbsent := by
    rw [htrace, hflag]
    exact going_nil.canDie
  refine outcome_bind (outcome_ask hempty fun runtime _ => ?_)
  refine outcome_bind (outcome_update ?_)
  have hdie : CanDie (s.trace ++ [.runtime runtime]) s.storageAbsent := by
    rw [htrace, hflag]
    exact (going_nil.concat (.runtime runtime) trivial rfl rfl).canDie
  refine outcome_bind (outcome_require hdie fun _ => ?_)
  refine outcome_bind (outcome_ask hdie fun conf hconf => ?_)
  refine outcome_bind (outcome_ask hdie fun _ _ => ?_)
  refine outcome_bind (outcome_ask hdie fun _ _ => ?_)
  refine outcome_bind (outcome_ask hdie fun running _ => ?_)
  refine outcome_bind (outcome_require hdie fun _ => ?_)
  refine outcome_bind (outcome_ask hdie fun managed _ => ?_)
  refine outcome_bind (outcome_require hdie fun _ => ?_)
  refine outcome_bind (outcome_ask hdie fun _ _ => ?_)
  refine outcome_bind (outcome_ask hdie fun storecfg hstorage => ?_)
  refine outcome_bind (outcome_require hdie fun _ => ?_)
  refine outcome_bind (outcome_ask hdie fun volids _ => ?_)
  refine outcome_bind (outcome_ask hdie fun before hbefore => ?_)
  refine outcome_bind (outcome_ask hdie fun _ _ => ?_)
  refine outcome_bind (outcome_ask hdie fun plan _ => ?_)
  refine outcome_bind (outcome_ask hdie fun objectIds _ => ?_)
  refine outcome_bind (outcome_ask hdie fun again _ => ?_)
  refine outcome_bind (outcome_ask hdie fun text _ => ?_)
  refine outcome_bind (outcome_require hdie fun _ => ?_)
  refine outcome_bind (outcome_ask hdie fun receipt _ => ?_)
  refine outcome_bind (outcome_ask hdie fun digest _ => ?_)
  refine outcome_bind (outcome_update (outcome_pure ?_))
  refine hok _ _ ⟨⟨conf, hconf, hbefore⟩, hstorage⟩ ?_ hflag
  exact congrArg (· ++ [Event.runtime runtime]) htrace

/-- The trace when both publications before the dispatch are acknowledged. -/
def announced (runtime first second : Value) : List Event :=
  [.runtime runtime, .published .prepared first true, .published .dispatched second true]

theorem going_announced (runtime first second : Value) :
    Going (announced runtime first second) false := by
  have h₁ := going_nil.concat (.runtime runtime) trivial rfl rfl
  have h₂ := h₁.concat (.published .prepared first true) trivial rfl rfl
  exact h₂.concat (.published .dispatched second true) trivial rfl rfl

theorem outcome_announce {Q : Unit → ExecState → Prop} (htrace : s.trace = [.runtime locked.runtime])
    (hflag : s.storageAbsent = false)
    (hok : ∀ first second s', s'.trace = announced locked.runtime first second →
      s'.storageAbsent = false → Q () s') :
    Outcome (announce env vmid locked) Q DeadState s := by
  have hstart : Going s.trace s.storageAbsent := by
    rw [htrace, hflag]
    exact going_nil.concat (.runtime locked.runtime) trivial rfl rfl
  refine outcome_bind (outcome_read (outcome_bind (outcome_record hstart (fun _ _ => trivial)
    fun first => ?_)))
  have hprepared := hstart.concat (.published .prepared first true) trivial rfl rfl
  refine outcome_bind (outcome_reloadConfig hprepared.canDie ?_)
  refine outcome_bind (outcome_update (outcome_bind (outcome_read ?_)))
  refine outcome_record hprepared (fun _ _ => trivial) fun second => ?_
  refine hok first second _ ?_ hflag
  simp only [htrace]
  rfl

/-- The trace up to the native call. -/
def invoked (runtime first second again : Value) : List Event :=
  announced runtime first second ++ [.runtime again, .effect .destroyVm]

theorem going_invoked {runtime again : Value} {text : String} (first second : Value)
    (hruntime : runtime.canonical = .ok text) (hagain : again.canonical = .ok text) :
    Going (invoked runtime first second again) false := by
  have hchecked := (going_announced runtime first second).concat (.runtime again) trivial rfl rfl
  have heffect := hchecked.concat (.effect .destroyVm) ?_ rfl rfl
  · simpa [invoked] using heffect
  · refine ⟨by simp [announced], ⟨first, by simp [announced]⟩, ⟨second, by simp [announced]⟩, ?_⟩
    exact ⟨runtime, again, text, rfl, hruntime, hagain⟩

theorem outcome_dispatch {Q : Unit → ExecState → Prop} {first second : Value}
    (hfrom : locked.From env) (htrace : s.trace = announced locked.runtime first second)
    (hflag : s.storageAbsent = false)
    (hswallow : env.destroyVm.swallows env vmid ⟨0, 0, 0⟩ false = false)
    (hok : ∀ s', Going s'.trace s'.storageAbsent → s'.storageAbsent = false → Q () s') :
    Outcome (dispatch env vmid locked) Q DeadState s := by
  have hstart : Going s.trace s.storageAbsent := by
    rw [htrace, hflag]
    exact going_announced locked.runtime first second
  refine outcome_bind (outcome_reloadConfig hstart.canDie ?_)
  refine outcome_bind (outcome_ask hstart.canDie fun again _ => ?_)
  refine outcome_bind (outcome_update ?_)
  have hchecked := (hstart.concat (.runtime again) trivial rfl rfl).canDie
  refine outcome_bind (outcome_require hchecked fun _ => ?_)
  refine outcome_bind (outcome_ask hchecked fun text htext => ?_)
  refine outcome_bind (outcome_ask hchecked fun expected hexpected => ?_)
  refine outcome_bind (outcome_require hchecked fun hsame => ?_)
  refine outcome_bind (outcome_update (outcome_bind (outcome_update ?_)))
  obtain rfl : text = expected := of_decide_eq_true hsame
  have hgo : Going (s.trace ++ [.runtime again] ++ [.effect .destroyVm]) s.storageAbsent := by
    have hinvoked := going_invoked first second hexpected htext
    rw [htrace, hflag, List.append_assoc]
    exact hinvoked
  refine outcome_bind ((outcome_runNative hfrom hgo.canDie (fun _ => rfl) hswallow).weaken ?_
    fun _ hdead => hdead)
  intro _ s' hnative
  obtain ⟨htrace', hflag'⟩ := hnative
  have hgo' : Going s'.trace s'.storageAbsent := by
    rw [htrace', hflag']
    exact hgo
  refine outcome_bind (outcome_update (outcome_bind (outcome_read ?_)))
  refine outcome_bind (outcome_update (outcome_bind (outcome_update ?_)))
  refine outcome_bind (outcome_require hgo'.canDie fun _ => ?_)
  exact outcome_require hgo'.canDie fun _ => hok _ hgo' (hflag'.trans hflag)

theorem outcome_proveStorageAbsent {Q : Value → ExecState → Prop}
    (hgo : Going s.trace s.storageAbsent)
    (hok : ∀ zombie s', s'.trace = s.trace → s'.storageAbsent = s.storageAbsent → Q zombie s') :
    Outcome (proveStorageAbsent env locked) Q DeadState s := by
  have hdie := hgo.canDie
  refine outcome_bind (outcome_ask hdie fun _ _ => ?_)
  refine outcome_bind (outcome_ask hdie fun proof _ => ?_)
  refine outcome_bind (outcome_update ?_)
  refine outcome_bind (outcome_require hdie fun _ => ?_)
  refine outcome_bind (outcome_ask hdie fun text _ => ?_)
  refine outcome_bind (outcome_ask hdie fun expected _ => ?_)
  refine outcome_bind (outcome_require hdie fun _ => ?_)
  refine outcome_bind (outcome_ask hdie fun zombie _ => ?_)
  refine outcome_bind (outcome_ask hdie fun exact _ => ?_)
  refine outcome_bind (outcome_require hdie fun _ => ?_)
  refine outcome_bind (outcome_ask hdie fun digest _ => ?_)
  exact outcome_bind (outcome_update (outcome_pure (hok zombie _ rfl rfl)))

/-- The acknowledged storage record and the flag set right after it belong together. -/
theorem Going.storageRecorded (h : Going trace false) (receipt : Value) :
    Going (trace ++ [.published .storageAbsent receipt true]) true where
  ordered := h.ordered.concat trivial
  stopped := h.stopped.concat fun hnot => absurd h.clear hnot
  clear := clear_concat h.clear rfl
  flag := by
    rw [acked_concat]
    exact ⟨fun _ => Or.inr ⟨receipt, rfl⟩, fun _ => rfl⟩

theorem outcome_guarded {first second : Value} (hfrom : locked.From env)
    (htrace : s.trace = announced locked.runtime first second) (hflag : s.storageAbsent = false)
    (hswallow : env.destroyVm.swallows env vmid ⟨0, 0, 0⟩ false = false)
    (hline : ∀ state, env.observeBefore .config = .ok state →
      ¬ EndsInNewline (state.get "config").text) :
    Outcome (guarded env vmid locked) (fun _ s' => Going s'.trace s'.storageAbsent) DeadState s := by
  refine outcome_bind (outcome_dispatch hfrom htrace hflag hswallow fun s₁ h₁ hflag₁ => ?_)
  refine outcome_bind (outcome_proveStorageAbsent h₁ fun zombie s₂ htrace₂ hflag₂ => ?_)
  have h₂ : Going s₂.trace s₂.storageAbsent := by
    rw [htrace₂, hflag₂]
    exact h₁
  have hfalse : s₂.storageAbsent = false := hflag₂.trans hflag₁
  refine outcome_bind (outcome_read (outcome_bind (outcome_record h₂ (fun _ _ => trivial)
    fun receipt => ?_)))
  refine outcome_bind (outcome_update (outcome_bind (outcome_read ?_)))
  have hstored : Going (s₂.trace ++ [.published .storageAbsent receipt true]) true := by
    rw [hfalse] at h₂
    exact h₂.storageRecorded receipt
  refine outcome_bind (outcome_record hstored (fun _ _ => trivial) fun receipt' => ?_)
  have hfinal : Finalizing (s₂.trace ++ [.published .storageAbsent receipt true] ++
      [.published .finalizing receipt' true]) true :=
    ⟨hstored.concat _ trivial rfl rfl, (acked_concat.mpr (Or.inr ⟨receipt, rfl⟩)).concat,
      acked_concat.mpr (Or.inr ⟨receipt', rfl⟩)⟩
  refine outcome_bind (outcome_runFinalization hfinal hline fun state s₃ h₃ hlast habsent => ?_)
  obtain ⟨earlier, hlast⟩ := hlast
  have hlegal : ∀ receipt acked, Ordered s₃.trace (.published .complete receipt acked) :=
    fun _ _ => ⟨earlier, state, hlast, habsent⟩
  refine outcome_bind (outcome_read (outcome_record h₃.going hlegal fun receipt'' => ?_))
  exact h₃.going.concat _ (hlegal receipt'' true) rfl rfl

/-- What every finished execution satisfies. -/
def Lawful (trace : List Event) : Prop := Always Ordered trace ∧ Always FailStop trace

theorem Lawful.fail (h : Lawful trace) (message : String) : Lawful (trace ++ [.failed message]) :=
  ⟨h.1.concat trivial, h.2.concat fun _ => trivial⟩

theorem Dead.lawful (h : Dead trace flag) : Lawful trace := ⟨h.ordered, h.stopped⟩

theorem sinceFailure_append {earlier later : List Event} (hclear : Clear earlier) :
    sinceFailure (earlier ++ .failed message :: later) = .failed message :: later := by
  induction earlier with
  | nil => rfl
  | cons event earlier ih =>
    have hevent : event.isFailure = false := by
      cases event with
      | failed m => exact absurd List.mem_cons_self (hclear m)
      | runtime value => rfl
      | published stage receipt acked => rfl
      | effect native => rfl
      | observed state => rfl
    have htail : Clear earlier := fun m hm => hclear m (List.mem_cons_of_mem event hm)
    simp only [sinceFailure, List.cons_append, List.dropWhile_cons, hevent, Bool.not_false, if_true]
    exact ih htail

theorem Dead.publish (h : Dead trace flag) (receipt : Value) (acked : Bool) :
    Lawful (trace ++ [.published (failureStage flag) receipt acked]) := by
  refine ⟨h.ordered.concat ?_, h.stopped.concat fun _ => ⟨?_, ?_, ?_⟩⟩
  · cases flag <;> trivial
  · obtain ⟨earlier, m, later, rfl, hclear, hlater⟩ := h.quiet
    rw [sinceFailure_append hclear]
    intro stage receipt' acked' hmem
    obtain hmem | hmem := List.mem_cons.mp hmem
    · cases hmem
    · cases hlater _ hmem
  · intro hacked
    rw [h.flag.mpr hacked]
    rfl
  · intro hacked
    cases flag with
    | true => exact absurd (h.flag.mp rfl) hacked
    | false => rfl

theorem outcome_recordFailure {error : String} (h : DeadState s) :
    Outcome (recordFailure env locked error) (fun _ s' => Lawful s'.trace)
      (fun s' => Lawful s'.trace) s := by
  refine outcome_bind (outcome_read (outcome_bind (outcome_attempt ?_)))
  refine outcome_bind (outcome_ask_cases (fun receipt _ => ?_) fun m _ _ => ?_)
  · refine outcome_bind (outcome_update ?_)
    have hpublished := h.publish receipt (isAck env.journalFailure)
    refine outcome_bind (outcome_ask_cases (fun _ _ => ?_) fun m _ _ => ?_)
    · refine outcome_require_cases (fun _ => ?_) fun _ _ => ?_
      · exact outcome_die (hpublished.fail _)
      · exact outcome_die ((hpublished.fail _).fail _)
    · exact outcome_die ((hpublished.fail _).fail _)
  · exact outcome_die ((h.lawful.fail _).fail _)

theorem outcome_execute {vmid txid : Option String}
    (hswallow : env.destroyVm.swallows env (vmid.getD "") ⟨0, 0, 0⟩ false = false)
    (hline : ∀ state, env.observeBefore .config = .ok state →
      ¬ EndsInNewline (state.get "config").text) :
    Outcome (execute env vmid txid) (fun _ s' => Lawful s'.trace) (fun s' => Lawful s'.trace)
      idle := by
  have hdead : ∀ s', DeadState s' → Lawful s'.trace := fun _ h => h.lawful
  have hdie : ∀ message, Lawful (idle.fail message).trace := fun m => (going_nil.canDie m).lawful
  refine outcome_bind (outcome_require_cases (fun _ => ?_) fun _ => hdie _)
  refine outcome_bind (outcome_require_cases (fun _ => ?_) fun _ => hdie _)
  refine outcome_bind (outcome_ask_cases (fun _ _ => ?_) fun m _ => hdie m)
  refine outcome_bind (outcome_ask_cases (fun _ _ => ?_) fun m _ => hdie m)
  refine outcome_bind (outcome_ask_cases (fun _ _ => ?_) fun m _ => hdie m)
  refine outcome_bind ((outcome_preflight rfl rfl fun locked s₁ hfrom htrace₁ hflag₁ => ?_).weaken
    (fun _ _ h => h) hdead)
  refine outcome_bind ((outcome_announce htrace₁ hflag₁ fun first second s₂ htrace₂ hflag₂ =>
    ?_).weaken (fun _ _ h => h) hdead)
  refine outcome_bind (outcome_attempt
    ((outcome_guarded hfrom htrace₂ hflag₂ hswallow hline).weaken ?_ ?_))
  · intro _ s₃ h₃
    exact outcome_pure ⟨h₃.ordered, h₃.stopped⟩
  · intro s₃ h₃ error
    exact outcome_recordFailure h₃

/-- The trace of every execution keeps the order of effects and stops at the first failure,
provided that the native destroy hides no failure of a replaced helper and that the last
observed configuration state is one of the two words, without a line feed. -/
theorem execution_order {vmid txid : Option String}
    (hswallow : env.destroyVm.swallows env (vmid.getD "") ⟨0, 0, 0⟩ false = false)
    (hline : ∀ state, env.observeBefore .config = .ok state →
      ¬ EndsInNewline (state.get "config").text) :
    Always Ordered (traceOf env vmid txid) ∧ Always FailStop (traceOf env vmid txid) :=
  (outcome_execute hswallow hline).final (fun _ _ h => h) fun _ h => h

/-! ## Concrete executions

The native destroy of the qualified PVE versions calls each helper once, inside an `eval` of its
own. -/

def qualifiedDestroy (conf : Value) : NativeRun :=
  let rest := NativeRun.deleteIpams true conf (.done (.ok ())) (.done (.ok ()))
  .cleanupFleecing true rest rest

def disklessConfig : Value :=
  .hash [("memory", .str "512"), ("digest", .str "21b62d471309a3f7474fdb8b45e9ae722dfe5e51")]

def disklessPlan : Value :=
  .hash [("raw_config", .str "memory: 512\n"),
    ("config_sha256", .str "7c5c4e0bc4d0afdea05ae491e6f1a670372d40e5ad124cabc16b903f5502769c"),
    ("parsed_config_sha256",
      .str "527e27e52ab2717b307dcd2ac35006192f470d1c5c3ecd9d9a76475e4d45ac6b"),
    ("volids", .array []), ("volumes", .array [])]

def finalState (acl firewall config : String) : Except String Value :=
  .ok (.hash [("vmid", .num "101"), ("acl", .str acl), ("firewall", .str firewall),
    ("config", .str config),
    ("config_sha256", .str "a6a2e66be4cf2fe4e3d67f2e4f462eeb0e82c50dc23820561c9d5c4909445ec6")])

/-- VM 101 without disks; the first helper's load and the last config observation vary. -/
def disklessEnv (helperLoad : Except String Value) (lastConfig : String) : Env where
  root := true
  loadPve := .ok ()
  cfsUpdate := .ok ()
  lockConfig := .ok ()
  verifyRuntime := .ok (.hash [("status", .str "QUALIFIED"),
    ("contract_sha256", .str "527e27e52ab2717b307dcd2ac35006192f470d1c5c3ecd9d9a76475e4d45ac6b")])
  verifyRuntimeAgain := .ok (.hash [("status", .str "QUALIFIED"),
    ("contract_sha256", .str "527e27e52ab2717b307dcd2ac35006192f470d1c5c3ecd9d9a76475e4d45ac6b")])
  loadConfig site := match site with
    | .helper 0 => helperLoad
    | .zombie => .ok (.hash [("lock", .str "destroyed")])
    | _ => .ok disklessConfig
  parsers _ := ⟨fun _ _ => .ok .undef, fun _ => .ok false⟩
  checkLock := .ok ()
  checkProtection := .ok ()
  checkRunning := .ok false
  serviceIsConfigured := .ok false
  checkForExistingJobs := .ok ()
  storageConfig := .ok (.hash [("ids", .hash [])])
  preparePlan := .ok disklessPlan
  validatePlan := .ok []
  journal _ := .ok (.num "1")
  journalFailure := .ok (.num "1")
  destroyVm := qualifiedDestroy disklessConfig
  observePlan := .ok (.hash [("status", .str "ABSENT"), ("foreign_unchanged", .str "YES"),
    ("object_ids", .array [])])
  observeBefore field := match field with
    | .acl => finalState "PRESENT" "PRESENT" "PRESENT"
    | .firewall => finalState "ABSENT" "PRESENT" "PRESENT"
    | .config => finalState "ABSENT" "ABSENT" lastConfig
  observeAfter field := match field with
    | .acl => finalState "ABSENT" "PRESENT" "PRESENT"
    | .firewall => finalState "ABSENT" "ABSENT" "PRESENT"
    | .config => finalState "ABSENT" "ABSENT" "ABSENT"
  removeEffect _ := .ok ()

def exampleTxid : String := "0123456789abcdef0123456789abcdef"

def Event.isEffect : Event → Bool
  | .effect _ => true
  | _ => false

def Event.isComplete : Event → Bool
  | .published .complete _ _ => true
  | _ => false

def Event.showsAllAbsent : Event → Bool
  | .observed state => (state.get "acl").text = "ABSENT" && (state.get "firewall").text = "ABSENT" &&
      (state.get "config").text = "ABSENT"
  | _ => false

def completesUnobserved (trace : List Event) : Bool :=
  trace.any Event.isComplete && !trace.any Event.showsAllAbsent

theorem isFailure_iff : event.isFailure = true ↔ ∃ m, event = .failed m := by
  cases event <;> simp [Event.isFailure]

theorem isEffect_iff : event.isEffect = true ↔ ∃ native, event = .effect native := by
  cases event <;> simp [Event.isEffect]

theorem isComplete_iff :
    event.isComplete = true ↔ ∃ receipt acked, event = .published .complete receipt acked := by
  cases event with
  | published stage receipt acked => cases stage <;> simp [Event.isComplete]
  | runtime value => simp [Event.isComplete]
  | effect native => simp [Event.isComplete]
  | observed state => simp [Event.isComplete]
  | failed m => simp [Event.isComplete]

theorem head_sinceFailure {later : List Event} (h : sinceFailure trace = event :: later) :
    event.isFailure = true := by
  have hhead := List.head?_dropWhile_not (fun e : Event => !e.isFailure) trace
  rw [show trace.dropWhile (fun e => !e.isFailure) = event :: later from h] at hhead
  simpa using hhead

theorem not_failStop_of_effect (h : (sinceFailure trace).any Event.isEffect = true) :
    ¬ Always FailStop trace := by
  intro hstop
  obtain ⟨event, hmem, heffect⟩ := List.any_eq_true.mp h
  obtain ⟨native, rfl⟩ := isEffect_iff.mp heffect
  obtain ⟨before, later, hsplit⟩ := List.append_of_mem hmem
  have htrace : trace = (trace.takeWhile (fun e => !e.isFailure) ++ before) ++
      .effect native :: later := by
    rw [List.append_assoc, ← hsplit]
    exact List.takeWhile_append_dropWhile.symm
  -- the failure that opens the suffix lies before the effect
  have hfailed : ¬ Clear (trace.takeWhile (fun e => !e.isFailure) ++ before) := by
    intro hclear
    cases before with
    | nil => cases head_sinceFailure hsplit
    | cons first before =>
      obtain ⟨m, rfl⟩ := isFailure_iff.mp (head_sinceFailure hsplit)
      exact hclear m (by simp)
  exact hstop _ _ _ htrace hfailed

theorem not_ordered_of_completesUnobserved (h : completesUnobserved trace = true) :
    ¬ Always Ordered trace := by
  intro hordered
  simp only [completesUnobserved, Bool.and_eq_true, Bool.not_eq_true', List.any_eq_true,
    List.any_eq_false] at h
  obtain ⟨⟨event, hmem, hcomplete⟩, hnone⟩ := h
  obtain ⟨receipt, acked, rfl⟩ := isComplete_iff.mp hcomplete
  obtain ⟨before, later, hsplit⟩ := List.append_of_mem hmem
  obtain ⟨earlier, state, hbefore, hacl, hfirewall, hconfig⟩ := hordered before _ later hsplit
  refine absurd ?_ (hnone (.observed state) (by rw [hsplit, hbefore]; simp))
  simp [Event.showsAllAbsent, hacl, hfirewall, hconfig]

-- An instance is evaluated before what follows it.
instance diskless_evaluated : Fact (
    (sinceFailure (traceOf (disklessEnv (.error "configuration file does not exist") "PRESENT")
      (some "101") (some exampleTxid))).any Event.isEffect = true ∧
    completesUnobserved (traceOf (disklessEnv (.ok disklessConfig) "PRESENT\n")
      (some "101") (some exampleTxid)) = true ∧
    (traceOf (disklessEnv (.ok disklessConfig) "PRESENT") (some "101") (some exampleTxid)).any
      Event.isComplete = true) :=
  ⟨by decide +kernel⟩

/-- The helper that finds the configuration unreadable is ignored and the ACL goes; a state
read as `PRESENT` and a line feed counts as absent. -/
theorem execution_order_fails :
    ¬ Always FailStop (traceOf (disklessEnv (.error "configuration file does not exist") "PRESENT")
      (some "101") (some exampleTxid)) ∧
    ¬ Always Ordered (traceOf (disklessEnv (.ok disklessConfig) "PRESENT\n")
      (some "101") (some exampleTxid)) :=
  ⟨not_failStop_of_effect diskless_evaluated.out.1,
    not_ordered_of_completesUnobserved diskless_evaluated.out.2.1⟩

theorem execution_order_diskless :
    (traceOf (disklessEnv (.ok disklessConfig) "PRESENT") (some "101") (some exampleTxid)).any
      Event.isComplete = true ∧
    Always Ordered (traceOf (disklessEnv (.ok disklessConfig) "PRESENT") (some "101")
      (some exampleTxid)) := by
  refine ⟨diskless_evaluated.out.2.2, (execution_order ?_ ?_).1⟩
  · decide +kernel
  · intro state hstate
    cases hstate
    decide

end SharedLvmThin.VMDestroy
