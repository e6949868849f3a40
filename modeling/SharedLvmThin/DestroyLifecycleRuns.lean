import SharedLvmThin.DestroyJournalChain
import SharedLvmThin.Runs
import SharedLvmThin.DestroyCalls

/-! The calls on one destroy transaction, one after the other under the VM lock, each cut wherever
it died. The journal takes a record only where its stage may follow and acknowledges only what it
has taken; it may take a record whose acknowledgement is lost. -/

namespace SharedLvmThin.VMDestroy
open Perl Effects Runs
open DestroyJournal (nextStage StagePath)

/-- The stages in the journal, and every event so far with the journal before it. -/
structure World where
  stages : List Stage
  log : List (List Stage × Event)

def World.events (w : World) : List Event := w.log.map Prod.snd

def World.after (w : World) (event : Event) (stages : List Stage) : World :=
  ⟨stages, w.log ++ [(w.stages, event)]⟩

@[simp] theorem World.after_events (w : World) (event : Event) (stages : List Stage) :
    (w.after event stages).events = w.events ++ [event] := by
  simp [World.events, World.after]

inductive Takes (w : World) : Event → World → Prop
  | kept {event : Event} (h : ∀ stage receipt, event ≠ .published stage receipt true) :
    Takes w event (w.after event w.stages)
  | stored {stage : Stage} {receipt : Value} {acked : Bool}
    (h : nextStage w.stages.getLast? stage = .ok ()) :
    Takes w (.published stage receipt acked)
      (w.after (.published stage receipt acked) (w.stages ++ [stage]))

inductive Logs (w : World) : List Event → World → Prop
  | none : Logs w [] w
  | next {before : List Event} {event : Event} {u v : World} (h : Logs w before u)
    (hnext : Takes u event v) : Logs w (before ++ [event]) v

inductive Call
  | execute (env : Env)
  | resume (env : ResumeEnv)
  | complete (env : CompletionEnv)

def Call.trace (vmid txid : Option String) : Call → List Event
  | .execute env => traceOf env vmid txid
  | .resume env => (resumeFinalizing env vmid txid idle).1.trace
  | .complete env => (completeFinalizingAbsent env vmid txid idle).1.trace

/-- The journal as the call reads it. -/
def Call.history : Call → Except String Value
  | .execute _ => .error "the execution reads no journal"
  | .resume env => env.readJournal
  | .complete env => env.readJournal

/-- A history that is read holds the stages of the journal. -/
def ReadsBack (stages : List Stage) (answer : Except String Value) : Prop :=
  ∀ history, answer = .ok history →
    (FinalizingReaders.items (history.get "records")).map (fun row => (row.get "stage").text) =
      stages.map Stage.text

/-- One call, cut after some of its events. -/
structure Step (vmid txid : Option String) (w : World) (call : Call × ℕ) (w' : World) : Prop where
  reads : ReadsBack w.stages call.1.history
  logs : Logs w ((call.1.trace vmid txid).take call.2) w'

/-! ## The law of a run -/

/-- The native destroy runs once, between its two records and the third; the other effects run
under a FINALIZING record and an observation of a zombie; the last record follows an observation
that nothing is left. -/
def LogLaw (before : List (List Stage × Event)) (entry : List Stage × Event) : Prop :=
  match entry.2 with
  | .effect .destroyVm =>
    entry.1 = [.prepared, .dispatched] ∧ .destroyVm ∉ effects (before.map Prod.snd)
  | .effect _ => entry.1.getLast? = some .finalizing ∧ ShowsSomeZombie (before.map Prod.snd)
  | .published .complete _ _ =>
    entry.1.getLast? = some .finalizing ∧
      (ShowsNothing (before.map Prod.snd) ∨ Bracketed (before.map Prod.snd))
  | _ => True

/-- No later call goes on from here. -/
def Closed (stages : List Stage) : Prop := ∃ stage, stages.getLast? = some stage ∧ stage ≠ .finalizing

/-- The first act of a call publishes the first record, unless the journal stands at FINALIZING. -/
def Joins (stages : List Stage) (before : List Event) (event : Event) : Prop :=
  event.Acts → (publications before = [] ∧ event.publication.map Prod.fst = some .prepared) ∨
    (publications before).head? = some (.prepared, true) ∨ stages.getLast? = some .finalizing

def CallLaw (stages : List Stage) (before : List Event) (event : Event) : Prop :=
  Owes before event ∧ Joins stages before event

variable {vmid txid : Option String} {w w' u v : World} {events before : List Event} {event : Event}
  {stages : List Stage}

theorem Stage.text_injective : Function.Injective Stage.text := by
  intro a b h
  cases a <;> cases b <;> first | rfl | exact absurd h (by decide)

/-! ## What a call reads -/

theorem recoverRecords_latest {vmid txid : String} {found result : Recovered} {rows : List Value}
    (h : recoverRecords vmid txid found rows = .ok result) :
    result.latest = (rows.getLast?.map fun row => row.get "stage").getD found.latest := by
  induction rows generalizing found with
  | nil =>
    obtain rfl := Except.ok.inj h
    rfl
  | cons entry rest ih =>
    simp only [recoverRecords, bind_eq_ok] at h
    obtain ⟨next, hnext, hrest⟩ := h
    rw [ih hrest]
    simp only [recoverRecord, bind_eq_ok, dieIf_eq_ok, pure_eq_ok] at hnext
    obtain ⟨-, -, -, -, rfl⟩ := hnext
    cases rest with
    | nil => rfl
    | cons second rest => rw [List.getLast?_cons_cons]; rfl

theorem ReadsBack.last {history : Value} {answer : Except String Value}
    (h : ReadsBack stages answer) (hanswer : answer = .ok history)
    (hlast : ((FinalizingReaders.items (history.get "records")).getLast?.map
      fun row => (row.get "stage").text) = some "FINALIZING") :
    stages.getLast? = some .finalizing := by
  have hmap := congrArg List.getLast? (h history hanswer)
  rw [List.getLast?_map, List.getLast?_map, hlast] at hmap
  obtain ⟨stage, hstage, htext⟩ := Option.map_eq_some_iff.mp hmap.symm
  rw [hstage, Stage.text_injective (htext.trans (by rfl : "FINALIZING" = Stage.finalizing.text))]

theorem Resumable.finalizing {env : ResumeEnv} (h : Resumable env vmid txid)
    (hreads : ReadsBack stages env.readJournal) : stages.getLast? = some .finalizing := by
  obtain ⟨history, receipt, hhistory, hreceipt⟩ := h
  refine hreads.last hhistory ?_
  simp only [resumableReceipt, bind_eq_ok, dieIf_eq_ok] at hreceipt
  obtain ⟨-, -, found, hfound, hrest⟩ := hreceipt
  have hlatest := recoverRecords_latest hfound
  split at hrest
  · simp only [bind_eq_ok, dieIf_eq_ok] at hrest
    obtain ⟨-, -, -, -, -, hstage, -⟩ := hrest
    have htext : found.latest.text = "FINALIZING" := by simpa using hstage
    cases hlast : (FinalizingReaders.items (history.get "records")).getLast? with
    | none =>
      rw [hlatest, hlast] at htext
      exact absurd htext (by decide)
    | some row =>
      rw [hlatest, hlast] at htext
      exact congrArg some htext
  · cases hrest

theorem completionRecords_stage {vmid txid : String} {context : Option Value} {stage : Value}
    {rows : List Value} {result : Option Value × Value}
    (h : FinalizingReaders.completionRecords vmid txid context stage rows = .ok result) :
    result.2 = (rows.getLast?.map fun row => row.get "stage").getD stage := by
  induction rows generalizing context stage with
  | nil =>
    obtain rfl := Except.ok.inj h
    rfl
  | cons row rest ih =>
    simp only [FinalizingReaders.completionRecords, bind_eq_ok] at h
    obtain ⟨next, -, hrest⟩ := h
    rw [ih hrest]
    cases rest with
    | nil => rfl
    | cons second rest => rw [List.getLast?_cons_cons]; rfl

theorem Completable.finalizing {env : CompletionEnv} (h : Completable env vmid txid)
    (hreads : ReadsBack stages env.readJournal) : stages.getLast? = some .finalizing := by
  obtain ⟨history, context, hhistory, hcontext⟩ := h
  refine hreads.last hhistory ?_
  simp only [FinalizingReaders.completionContext, bind_eq_ok, dieIf_eq_ok] at hcontext
  obtain ⟨-, -, ⟨found, stage⟩, hfound, digest, -, -, hchecks, -⟩ := hcontext
  have hlatest := completionRecords_stage hfound
  have htext : stage.text = "FINALIZING" := by
    simp only [Bool.or_eq_false_iff, decide_eq_false_iff_not, not_not] at hchecks
    exact hchecks.1
  cases hlast : (FinalizingReaders.items (history.get "records")).getLast? with
  | none =>
    simp only [hlast, Option.map_none, Option.getD_none] at hlatest
    rw [hlatest] at htext
    exact absurd htext (by decide)
  | some row =>
    simp only [hlast, Option.map_some, Option.getD_some] at hlatest
    rw [hlatest] at htext
    exact congrArg some htext

theorem always_mono {Law Law' : List Event → Event → Prop} {trace : List Event}
    (h : Always Law trace) (hlaw : ∀ before event, Law before event → Law' before event) :
    Always Law' trace := fun before event after heq => hlaw _ _ (h before event after heq)

/-- Every call keeps the law of a call. -/
theorem Step.lawful {call : Call × ℕ} (h : Step vmid txid w call w') :
    Always (CallLaw w.stages) ((call.1.trace vmid txid).take call.2) := by
  have hcut : ∀ {Law : List Event → Event → Prop} {trace : List Event}, Always Law trace →
      Always Law (trace.take call.2) := fun {Law trace} hall =>
    always_of_append (by rw [List.take_append_drop]; exact hall)
  have hreads := h.reads
  obtain ⟨call, cut⟩ := call
  refine hcut ?_
  cases call with
  | execute env =>
    refine always_mono (execute_lawful env vmid txid) fun before event hlaw => ⟨hlaw.1, fun hacts => ?_⟩
    rcases hlaw.2 hacts with hfirst | hopened
    · exact .inl hfirst
    · exact .inr (.inl hopened)
  | resume env =>
    refine always_mono (resume_lawful env vmid txid) fun before event hlaw => ⟨hlaw.1, fun hacts => ?_⟩
    exact .inr (.inr ((hlaw.2 hacts).finalizing hreads))
  | complete env =>
    refine always_mono (complete_lawful env vmid txid) fun before event hlaw => ⟨hlaw.1, fun hacts => ?_⟩
    exact .inr (.inr ((hlaw.2 hacts).finalizing hreads))

/-! ## What the journal holds during a call -/

theorem publications_concat : publications (before ++ [event]) =
    publications before ++ event.publication.toList := by
  rw [publications, List.filterMap_append]
  cases h : event.publication <;> simp [h, publications]

theorem effects_concat : effects (before ++ [event]) = effects before ++ event.native.toList := by
  rw [effects, List.filterMap_append]
  cases h : event.native <;> simp [h, effects]

theorem effects_append {later : List Event} :
    effects (before ++ later) = effects before ++ effects later := List.filterMap_append

theorem eq_nil_of_prepared (h : nextStage stages.getLast? .prepared = .ok ()) : stages = [] := by
  cases hlast : stages.getLast? with
  | none => exact List.getLast?_eq_none_iff.mp hlast
  | some stage =>
    rw [hlast] at h
    cases stage <;> exact absurd h (by decide)

/-- The journal of `w`, reached by these events of one call from `w'`. -/
structure Followed (w : World) (before : List Event) (u : World) : Prop where
  path : StagePath u.stages
  events : u.events = w.events ++ before
  acked : (∀ x ∈ publications before, x.2 = true) →
    u.stages = w.stages ++ (publications before).map Prod.fst
  last : ∀ stage, (publications before).getLast? = some (stage, true) → u.stages.getLast? = some stage
  opened : (publications before).head? = some (.prepared, true) → w.stages = []

theorem Followed.kept (h : Followed w before u)
    (hkept : ∀ stage receipt, event ≠ .published stage receipt true) :
    Followed w (before ++ [event]) (u.after event u.stages) where
  path := h.path
  events := by rw [World.after_events, h.events, List.append_assoc]
  acked hall := by
    rw [publications_concat] at hall ⊢
    have hbefore := h.acked fun x hx => hall x (List.mem_append_left _ hx)
    cases hp : event.publication with
    | none => simpa [World.after, hp] using hbefore
    | some x =>
      cases event with
      | published stage receipt acked =>
        obtain rfl := Option.some.inj hp
        have htrue : acked = true := hall (stage, acked) (by simp [hp])
        exact absurd (by rw [htrue]) (hkept stage receipt)
      | runtime value => cases hp
      | effect native => cases hp
      | observed state => cases hp
      | failed message => cases hp
  last stage hlast := by
    rw [publications_concat] at hlast
    cases event with
    | published stage' receipt acked =>
      rw [show (Event.published stage' receipt acked).publication.toList = [(stage', acked)] from rfl,
        List.getLast?_concat] at hlast
      obtain ⟨-, rfl⟩ := Prod.mk.inj (Option.some.inj hlast)
      exact absurd rfl (hkept stage' receipt)
    | runtime value => exact h.last stage (by simpa [Event.publication] using hlast)
    | effect native => exact h.last stage (by simpa [Event.publication] using hlast)
    | observed state => exact h.last stage (by simpa [Event.publication] using hlast)
    | failed message => exact h.last stage (by simpa [Event.publication] using hlast)
  opened hhead := by
    rw [publications_concat] at hhead
    cases hbefore : publications before with
    | cons x rest => exact h.opened (by rw [hbefore]; simpa [hbefore] using hhead)
    | nil =>
      rw [hbefore, List.nil_append] at hhead
      cases event with
      | published stage receipt acked =>
        obtain ⟨-, rfl⟩ := Prod.mk.inj (Option.some.inj hhead)
        exact absurd rfl (hkept stage receipt)
      | runtime value => cases hhead
      | effect native => cases hhead
      | observed state => cases hhead
      | failed message => cases hhead

theorem Followed.stored {stage : Stage} {receipt : Value} {acked : Bool} (h : Followed w before u)
    (hnext : nextStage u.stages.getLast? stage = .ok ()) :
    Followed w (before ++ [.published stage receipt acked])
      (u.after (.published stage receipt acked) (u.stages ++ [stage])) where
  path := h.path.concat hnext
  events := by rw [World.after_events, h.events, List.append_assoc]
  acked hall := by
    rw [publications_concat] at hall ⊢
    have hbefore := h.acked fun x hx => hall x (List.mem_append_left _ hx)
    simp [World.after, Event.publication, hbefore]
  last stage' hlast := by
    rw [publications_concat,
      show (Event.published stage receipt acked).publication.toList = [(stage, acked)] from rfl,
      List.getLast?_concat] at hlast
    obtain ⟨rfl, -⟩ := Prod.mk.inj (Option.some.inj hlast)
    exact List.getLast?_concat
  opened hhead := by
    rw [publications_concat] at hhead
    cases hbefore : publications before with
    | cons x rest => exact h.opened (by rw [hbefore]; simpa [hbefore] using hhead)
    | nil =>
      rw [hbefore, List.nil_append] at hhead
      obtain ⟨rfl, -⟩ := Prod.mk.inj (Option.some.inj hhead)
      have hsame := h.acked (by simp [hbefore])
      rw [hbefore, List.map_nil, List.append_nil] at hsame
      rw [← hsame]
      exact eq_nil_of_prepared hnext

theorem Logs.followed (hlogs : Logs w before u) (hpath : StagePath w.stages) :
    Followed w before u := by
  induction hlogs with
  | none => exact ⟨hpath, by simp, by simp [publications], by simp [publications], by simp [publications]⟩
  | next hbefore hnext ih =>
    cases hnext with
    | kept h => exact ih.kept h
    | stored h => exact ih.stored h

/-! ## Runs -/

structure Sound (w : World) : Prop where
  path : StagePath w.stages
  lawful : Always LogLaw w.log
  unopened : w.stages = [] → effects w.events = []

theorem lastObserved_append {earlier : List Event} {state : Value}
    (h : lastObserved before = some state) : lastObserved (earlier ++ before) = some state := by
  rw [lastObserved] at h ⊢
  rw [List.filterMap_append, List.getLast?_append, h]
  rfl

theorem ShowsSomeZombie.after {earlier : List Event} (h : ShowsSomeZombie before) :
    ShowsSomeZombie (earlier ++ before) := by
  obtain ⟨zombie, state, hzombie, hlast, hshows⟩ := h
  exact ⟨zombie, state, hzombie, lastObserved_append hlast, hshows⟩

theorem ShowsNothing.after {earlier : List Event} (h : ShowsNothing before) :
    ShowsNothing (earlier ++ before) := by
  obtain ⟨state, hlast, hscope, hconfig⟩ := h
  exact ⟨state, lastObserved_append hlast, hscope, hconfig⟩

theorem Bracketed.after {earlier : List Event} (h : Bracketed before) :
    Bracketed (earlier ++ before) := by
  obtain ⟨front, first, second, context, head, txid, text, rfl, hrest⟩ := h
  exact ⟨earlier ++ front, first, second, context, head, txid, text, by simp, hrest⟩

/-- The law of the call is the law of the run, at the journal as it stands. -/
theorem logLaw_of_callLaw (hw : Sound w) (hu : Followed w before u)
    (hlaw : CallLaw w.stages before event) : LogLaw u.log (u.stages, event) := by
  have hevents : u.log.map Prod.snd = w.events ++ before := hu.events
  obtain ⟨howes, hjoins⟩ := hlaw
  cases event with
  | effect native =>
    cases native with
    | destroyVm =>
      obtain ⟨hpublished, heffects⟩ := howes
      have hempty := hu.opened (by rw [hpublished]; rfl)
      refine ⟨?_, ?_⟩
      · have hstages := hu.acked (by rw [hpublished]; simp)
        rw [hpublished, hempty] at hstages
        exact hstages
      · rw [hevents, effects_append, hw.unopened hempty, heffects]
        exact List.not_mem_nil
    | removeVmAccess => exact ⟨hu.last _ howes.1, hevents ▸ howes.2.after⟩
    | removeVmfwConf => exact ⟨hu.last _ howes.1, hevents ▸ howes.2.after⟩
    | destroyConfig => exact ⟨hu.last _ howes.1, hevents ▸ howes.2.after⟩
  | published stage receipt acked =>
    cases stage with
    | complete =>
      rcases howes with ⟨hlast, hnothing⟩ | ⟨hnone, hbracketed⟩
      · exact ⟨hu.last _ hlast, .inl (hevents ▸ hnothing.after)⟩
      · refine ⟨?_, .inr (hevents ▸ hbracketed.after)⟩
        have hsame := hu.acked (by simp [hnone])
        rw [hnone, List.map_nil, List.append_nil] at hsame
        show u.stages.getLast? = _
        rw [hsame]
        rcases hjoins (.inl (by simp [Event.publication])) with ⟨-, hfirst⟩ | hopened | hlast
        · cases hfirst
        · rw [hnone] at hopened
          cases hopened
        · exact hlast
    | prepared => trivial
    | dispatched => trivial
    | storageAbsent => trivial
    | finalizing => trivial
    | partialOrUnknown => trivial
  | runtime value => trivial
  | observed state => trivial
  | failed message => trivial

theorem Takes.eq (h : Takes u event v) : ∃ stages, v = u.after event stages ∧
    (stages = [] → u.stages = []) := by
  cases h with
  | kept h => exact ⟨_, rfl, id⟩
  | stored h => exact ⟨_, rfl, by simp⟩

theorem stages_ne_nil_of_effect {native : NativeEffect} {log : List (List Stage × Event)}
    (h : LogLaw log (stages, .effect native)) : stages ≠ [] := by
  cases native with
  | destroyVm => exact fun hnil => by simp [LogLaw, hnil] at h
  | removeVmAccess => exact fun hnil => by simp [LogLaw, hnil] at h
  | removeVmfwConf => exact fun hnil => by simp [LogLaw, hnil] at h
  | destroyConfig => exact fun hnil => by simp [LogLaw, hnil] at h

theorem Logs.sound (hlogs : Logs w events u) (hw : Sound w)
    (hlaw : Always (CallLaw w.stages) events) : Sound u := by
  induction hlogs with
  | none => exact hw
  | @next before event u v hbefore hnext ih =>
    have hu := ih (always_of_append hlaw)
    have hlog := logLaw_of_callLaw hw (hbefore.followed hw.path) (hlaw _ _ [] rfl)
    have hpath := ((hbefore.next hnext).followed hw.path).path
    obtain ⟨stages, rfl, hempty⟩ := hnext.eq
    refine ⟨hpath, hu.lawful.concat hlog, fun hnil => ?_⟩
    have hprevious := hempty hnil
    rw [World.after_events, effects_concat, hu.unopened hprevious, List.nil_append]
    cases event with
    | effect native => exact absurd hprevious (stages_ne_nil_of_effect hlog)
    | published stage receipt acked => rfl
    | runtime value => rfl
    | observed state => rfl
    | failed message => rfl

theorem Step.sound {call : Call × ℕ} (h : Step vmid txid w call w') (hw : Sound w) : Sound w' :=
  h.logs.sound hw h.lawful

/-- From a closed journal a call can only offer a first record, in vain. -/
structure Idle (w : World) (before : List Event) (u : World) : Prop where
  stages : u.stages = w.stages
  effects : VMDestroy.effects u.events = VMDestroy.effects w.events
  offered : publications before = [] ∨ publications before = [(.prepared, false)]

theorem Idle.next (h : Idle w before u) (hclosed : Closed w.stages)
    (hjoins : Joins w.stages before event) (hnext : Takes u event v) :
    Idle w (before ++ [event]) v := by
  obtain ⟨stage, hlast, hstage⟩ := hclosed
  by_cases hacts : event.Acts
  · have hfirst : publications before = [] ∧ event.publication.map Prod.fst = some .prepared := by
      rcases hjoins hacts with hfirst | hopened | hfinal
      · exact hfirst
      · rcases h.offered with hnone | hoffered
        · rw [hnone] at hopened
          cases hopened
        · rw [hoffered] at hopened
          cases hopened
      · rw [hlast] at hfinal
        exact absurd (Option.some.inj hfinal) hstage
    obtain ⟨hnone, hprepared⟩ := hfirst
    cases hnext with
    | stored hnext =>
      obtain rfl := Option.some.inj hprepared
      have hnil := eq_nil_of_prepared hnext
      rw [h.stages] at hnil
      rw [hnil] at hlast
      cases hlast
    | kept hkept =>
      refine ⟨h.stages, ?_, .inr ?_⟩
      · have hnative : event.native = none := by
          cases event with
          | published stage receipt acked => rfl
          | effect native => cases hprepared
          | runtime value => rfl
          | observed state => rfl
          | failed message => rfl
        rw [World.after_events, effects_concat, hnative, Option.toList_none, List.append_nil]
        exact h.effects
      · rw [publications_concat, hnone]
        cases event with
        | published stage receipt acked =>
          obtain rfl := Option.some.inj hprepared
          cases acked with
          | true => exact absurd rfl (hkept .prepared receipt)
          | false => rfl
        | effect native => cases hprepared
        | runtime value => cases hprepared
        | observed state => cases hprepared
        | failed message => cases hprepared
  · obtain ⟨hp, hn⟩ := not_or.mp hacts
    have hp := not_not.mp hp
    have hn := not_not.mp hn
    cases hnext with
    | stored hnext => cases hp
    | kept hkept =>
      refine ⟨h.stages, ?_, ?_⟩
      · rw [World.after_events, effects_concat, hn, Option.toList_none, List.append_nil]
        exact h.effects
      · rw [publications_concat, hp]
        simpa using h.offered

theorem Logs.idle (hlogs : Logs w events u) (hclosed : Closed w.stages)
    (hlaw : Always (CallLaw w.stages) events) : Idle w events u := by
  induction hlogs with
  | none => exact ⟨rfl, rfl, .inl rfl⟩
  | next hbefore hnext ih =>
    exact (ih (always_of_append hlaw)).next hclosed (hlaw _ _ [] rfl).2 hnext

theorem Step.idle {call : Call × ℕ} (h : Step vmid txid w call w') (hclosed : Closed w.stages) :
    w'.stages = w.stages ∧ effects w'.events = effects w.events := by
  have hidle := h.logs.idle hclosed h.lawful
  exact ⟨hidle.stages, hidle.effects⟩

/-- Every acknowledged record may follow the journal as it stands. -/
def accepts (stages : List Stage) : List Event → Bool
  | [] => true
  | .published stage _ true :: rest =>
    decide (nextStage stages.getLast? stage = .ok ()) && accepts (stages ++ [stage]) rest
  | _ :: rest => accepts stages rest

theorem Logs.cons (hnext : Takes w event u) (hrest : Logs u events v) :
    Logs w (event :: events) v := by
  induction hrest with
  | none => exact Logs.next Logs.none hnext
  | next _ hlast ih => exact Logs.next ih hlast

def Event.row : Event → Option Value
  | .published stage receipt true => some (.hash [("stage", .str stage.text), ("receipt", receipt)])
  | _ => none

def historyOf (trace : List Event) : Value :=
  .hash [("durable", .num "1"), ("records", .array (trace.filterMap Event.row))]

end SharedLvmThin.VMDestroy
