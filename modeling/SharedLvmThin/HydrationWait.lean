import SharedLvmThin.CloneStatus
import SharedLvmThin.Loops

/-! The wait for background hydration. A turn of the loop reads the status before and after one
bounded event wait; a log keeps the accepted readings and the clock reads in order. -/

namespace SharedLvmThin.Hydration
open Perl Loops

structure Arguments where
  clone : Clone
  timeout : ℕ
  commandTimeout : ℕ

inductive Failure
  | stalled (message : String)
  | refused (message : String)
deriving DecidableEq

inductive Observed
  | reading (r : Reading)
  | clock (now : ℚ)

/-- What was observed, and the return or the death. -/
abbrev Result := List Observed × Except Failure Unit

/-- What one turn of the loop meets: the answers of its commands and the clock where it is read. -/
structure Turn where
  events : Except String (List String)
  before : Except String (List String)
  progressed : ℚ
  checked : ℚ
  waitStarted : ℚ
  wait : Except String Unit
  waitEnded : ℚ
  after : Except String (List String)
  progressedAgain : ℚ
  closing : ℚ
  disabled : Except String Unit

structure State where
  hydrated : ℕ
  total : ℕ
  progressAt : ℚ
  log : List Observed

def State.noted (s : State) (observed : List Observed) : State :=
  { s with log := s.log ++ observed }

/-- `int` of a difference of clock reads. -/
def truncate (x : ℚ) : ℤ := if 0 ≤ x then ⌊x⌋ else ⌈x⌉

/-- `_thick_fail_stalled_hydration`, which dies whether or not hydration could be disabled. -/
def failStalled (a : Arguments) (disabled : Except String Unit) : Failure :=
  let stalled := "dm-clone hydration for '" ++ a.clone.mapper ++ "' made no verified progress for
    " ++
    a.timeout.repr ++ "s; "
  match disabled with
  | .error e => .stalled (stalled ++
      "background hydration state is unknown and requires operator recovery: " ++ e)
  | .ok () => .stalled (stalled ++ "background hydration is confirmed disabled and the " ++
      "persistent transition requires explicit recovery\n")

/-- The event number that the wait starts from. -/
def eventNumber (a : Arguments) (events : Except String (List String)) : Except String ℕ := do
  let lines ← events
  match lines with
  | [line] => do
    dieIf (!isDigits line) ("dm-clone event counter for '" ++ a.clone.mapper ++ "' is ambiguous\n")
    return (numify line).value
  | _ => .error ("dm-clone event counter for '" ++ a.clone.mapper ++ "' is ambiguous\n")

def observe (a : Arguments) (command : Except String (List String)) : Except String Reading :=
  verifyCloneStatus a.clone false a.commandTimeout none command

/-- A reading inside the loop, and the clock read that follows progress. -/
def look (a : Arguments) (command : Except String (List String)) (now : ℚ) (s : State) :
    Result ⊕ State :=
  match observe a command with
  | .error message => .inl (s.log, .error (.refused message))
  | .ok r =>
    if r.complete then .inl (s.log ++ [.reading r], .ok ())
    else if r.total ≠ s.total ∨ r.hydrated < s.hydrated then
      .inl (s.log ++ [.reading r], .error (.refused
        ("dm-clone hydration geometry changed for '" ++ a.clone.mapper ++ "'\n")))
    else if s.hydrated < r.hydrated then
      .inr { s with hydrated := r.hydrated, progressAt := now,
                    log := s.log ++ [.reading r, .clock now] }
    else .inr (s.noted [.reading r])

/-- The observation boundary at the end of a turn. -/
def atBoundary (a : Arguments) (t : Turn) (s : State) : Result ⊕ State :=
  if a.timeout ≤ t.closing - s.progressAt then
    .inl (s.log ++ [.clock t.closing], .error (failStalled a t.disabled))
  else .inr (s.noted [.clock t.closing])

/-- The part of a turn after the event wait. A failed wait is only accepted at the boundary of its
slice, and a wait that returns at once is followed by a pause. -/
def afterWait (a : Arguments) (t : Turn) (slice : ℤ) (s : State) : Result ⊕ State :=
  match look a t.after t.progressedAgain s with
  | .inl result => .inl result
  | .inr s' =>
    if s.hydrated < s'.hydrated then .inr s'
    else
      match t.wait with
      | .error e =>
        if 1 < slice ∧ t.waitEnded - t.waitStarted < 1 then
          .inl (s'.log, .error (.refused ("dm-clone event wait for '" ++ a.clone.mapper ++
            "' failed before the observation boundary: " ++ e)))
        else atBoundary a t s'
      | .ok () => if t.waitEnded - t.waitStarted < 1 then .inr s' else atBoundary a t s'

def turn (a : Arguments) (t : Turn) (s : State) : Result ⊕ State :=
  match eventNumber a t.events with
  | .error message => .inl (s.log, .error (.refused message))
  | .ok _ =>
    match look a t.before t.progressed s with
    | .inl result => .inl result
    | .inr s =>
      let remaining := a.timeout - truncate (t.checked - s.progressAt)
      if remaining ≤ 0 then
        .inl (s.log ++ [.clock t.checked], .error (failStalled a t.disabled))
      else
        afterWait a t (min (min remaining 60) a.commandTimeout)
          (s.noted [.clock t.checked, .clock t.waitStarted, .clock t.waitEnded])

/-- Before the loop. -/
def begin (a : Arguments) (first : Except String (List String)) (started : ℚ) : Result ⊕ State :=
  if a.timeout < 60 ∨ 86400 < a.timeout then
    .inl ([], .error (.refused "invalid thick-generations hydration timeout\n"))
  else
    match observe a first with
    | .error message => .inl ([], .error (.refused message))
    | .ok r =>
      if r.complete then .inl ([.reading r], .ok ())
      else .inr ⟨r.hydrated, r.total, started, [.reading r, .clock started]⟩

def round (a : Arguments) (turns : ℕ → Turn) : ℕ × State → Result ⊕ (ℕ × State)
  | (n, s) =>
    match turn a (turns n) s with
    | .inl result => .inl result
    | .inr s' => .inr (n + 1, s')

/-- `_thick_wait_for_hydration` ends with a result. -/
def Waits (a : Arguments) (first : Except String (List String)) (started : ℚ) (turns : ℕ → Turn)
    (result : Result) : Prop :=
  match begin a first started with
  | .inl stop => result = stop
  | .inr s => Ends (round a turns) (0, s) result

/-! ## What is observed -/

/-- The hydrated counts of the readings, in order. -/
def counts (log : List Observed) : List ℕ :=
  log.filterMap fun
    | .reading r => some r.hydrated
    | .clock _ => none

@[simp] theorem counts_append (l l' : List Observed) : counts (l ++ l') = counts l ++ counts l' :=
  List.filterMap_append

@[simp] theorem counts_nil : counts [] = [] := rfl

@[simp] theorem counts_reading (r : Reading) (l : List Observed) :
    counts (.reading r :: l) = r.hydrated :: counts l := rfl

@[simp] theorem counts_clock (now : ℚ) (l : List Observed) :
    counts (.clock now :: l) = counts l := rfl

/-- How the wait may end. -/
structure Sound (a : Arguments) (result : Result) : Prop where
  returned : result.2 = .ok () →
    ∃ log r, result.1 = log ++ [.reading r] ∧ r.hydrated = r.total ∧ r.hydrating = 0
  dropped : ∀ pre r post, result.1 = pre ++ .reading r :: post →
    (∃ h ∈ counts pre, r.hydrated < h) → post = [] ∧ ∃ message, result.2 = .error (.refused message)
  stalled : ∀ message, result.2 = .error (.stalled message) →
    ∃ (pre : List Observed) (since : ℚ) (post : List Observed) (now : ℚ),
      result.1 = pre ++ .clock since :: post ++ [.clock now] ∧
      since + a.timeout ≤ now ∧ ∃ h ∈ counts pre, ∀ h' ∈ counts post, h' ≤ h

/-- What holds between the turns. -/
structure Steady (a : Arguments) (s : State) : Prop where
  timed : 0 < a.timeout
  total : s.total = a.clone.total
  bounded : s.hydrated ≤ a.clone.total
  below : ∀ h ∈ counts s.log, h ≤ s.hydrated
  sorted : (counts s.log).Pairwise (· ≤ ·)
  stamped : ∃ pre post, s.log = pre ++ .clock s.progressAt :: post ∧ s.hydrated ∈ counts pre

/-- Progress, or the same count since the same time. -/
def Onward (s s' : State) : Prop :=
  s.hydrated < s'.hydrated ∨ s'.hydrated = s.hydrated ∧ s'.progressAt = s.progressAt

theorem Onward.trans {s s' s'' : State} (h : Onward s s') (h' : Onward s' s'') : Onward s s'' := by
  rcases h with hless | ⟨hcount, hsince⟩
  · rcases h' with hless' | ⟨hcount', _⟩
    · exact .inl (hless.trans hless')
    · exact .inl (hcount' ▸ hless)
  · rcases h' with hless' | ⟨hcount', hsince'⟩
    · exact .inl (hcount ▸ hless')
    · exact .inr ⟨hcount'.trans hcount, hsince'.trans hsince⟩

theorem Onward.le {s s' : State} (h : Onward s s') : s.hydrated ≤ s'.hydrated := by
  rcases h with hless | ⟨hcount, _⟩
  · exact hless.le
  · exact hcount.ge

/-- What a step from a steady state leads to. -/
structure Leads (a : Arguments) (s : State) (next : Result ⊕ State) : Prop where
  stop : ∀ result, next = .inl result → Sound a result
  goOn : ∀ s', next = .inr s' → Steady a s' ∧ Onward s s'

section
variable {a : Arguments} {s : State}

theorem no_drop {log pre post : List Observed} {r : Reading}
    (hsorted : (counts log).Pairwise (· ≤ ·)) (hlog : log = pre ++ .reading r :: post) :
    ¬ ∃ h ∈ counts pre, r.hydrated < h := by
  rintro ⟨h, hh, hless⟩
  rw [hlog, counts_append, counts_reading, List.pairwise_append] at hsorted
  exact absurd (hsorted.2.2 h hh r.hydrated List.mem_cons_self) (not_le.mpr hless)

/-- Only the last reading of a log can drop when the ones before it are sorted. -/
theorem last_of_drop {log pre post : List Observed} {r r' : Reading}
    (hsorted : (counts log).Pairwise (· ≤ ·)) (hlog : log ++ [.reading r'] = pre ++
        .reading r :: post)
    (hdrop : ∃ h ∈ counts pre, r.hydrated < h) : post = [] := by
  rcases List.eq_nil_or_concat post with hnil | ⟨post', x, rfl⟩
  · exact hnil
  · have hinit : log = pre ++ .reading r :: post' := by
      rw [List.concat_eq_append, ← List.cons_append, ← List.append_assoc] at hlog
      exact (List.append_inj' hlog rfl).1
    exact absurd hdrop (no_drop hsorted hinit)

/-- A death over a log whose readings never dropped. -/
theorem Sound.of_sorted {log : List Observed} {message : String}
    (hsorted : (counts log).Pairwise (· ≤ ·)) : Sound a (log, .error (.refused message)) := by
  refine ⟨fun h => (nomatch h), ?_, fun _ h => nomatch h⟩
  intro pre r post hlog hdrop
  exact absurd hdrop (no_drop hsorted hlog)

theorem Steady.noted {observed : List Observed} (h : Steady a s) (hclocks : counts observed = []) :
    Steady a (s.noted observed) := by
  obtain ⟨pre, post, hlog, hmem⟩ := h.stamped
  refine ⟨h.timed, h.total, h.bounded, ?_, ?_, pre, post ++ observed, ?_, hmem⟩
  · simpa [State.noted, hclocks] using h.below
  · simpa [State.noted, hclocks] using h.sorted
  · simp [State.noted, hlog]

/-- A stall: the time since the last progress is at least the timeout. -/
theorem Steady.stalled {now : ℚ} {disabled : Except String Unit} (h : Steady a s)
    (hsince : s.progressAt + a.timeout ≤ now) :
    Sound a (s.log ++ [.clock now], .error (failStalled a disabled)) := by
  refine ⟨fun hreturn => (nomatch hreturn), ?_, ?_⟩
  · intro pre r post hlog hdrop
    have hsorted : (counts (s.log ++ [.clock now])).Pairwise (· ≤ ·) := by
      simpa using h.sorted
    exact absurd hdrop (no_drop hsorted hlog)
  · intro message _
    obtain ⟨pre, post, hlog, hmem⟩ := h.stamped
    refine ⟨pre, s.progressAt, post, now, by rw [hlog], hsince, s.hydrated, hmem, ?_⟩
    intro count hcount
    refine h.below count ?_
    rw [hlog, counts_append, counts_clock]
    exact List.mem_append_right _ hcount

theorem look_leads {command : Except String (List String)} {now : ℚ} (h : Steady a s) :
    Leads a s (look a command now s) := by
  unfold look
  cases hread : observe a command with
  | error message =>
    refine ⟨?_, fun _ hgo => nomatch hgo⟩
    rintro _ ⟨⟩
    exact .of_sorted h.sorted
  | ok r =>
    obtain ⟨htotal, hbounded⟩ := verifyCloneStatus_spec hread
    have hpairwise : ∀ log', counts log' = [r.hydrated] → s.hydrated ≤ r.hydrated →
        (counts (s.log ++ log')).Pairwise (· ≤ ·) := by
      intro log' hlog' hle
      rw [counts_append, hlog', List.pairwise_append]
      refine ⟨h.sorted, List.pairwise_singleton _ _, ?_⟩
      intro x hx y hy
      rw [List.mem_singleton.mp hy]
      exact (h.below x hx).trans hle
    by_cases hcomplete : r.complete = true
    · simp only [hcomplete, if_true]
      refine ⟨?_, fun _ hgo => nomatch hgo⟩
      rintro _ ⟨⟩
      obtain ⟨hall, hnone⟩ : r.hydrated = r.total ∧ r.hydrating = 0 := by
        simpa [Reading.complete] using hcomplete
      have hsorted := hpairwise [.reading r] rfl (by rw [hall, htotal]; exact h.bounded)
      refine ⟨fun _ => ⟨s.log, r, rfl, hall, hnone⟩, ?_, fun _ hstall => nomatch hstall⟩
      intro pre r' post hlog hdrop
      exact absurd hdrop (no_drop hsorted hlog)
    · simp only [hcomplete, if_false, Bool.false_eq_true]
      by_cases hchanged : r.total ≠ s.total ∨ r.hydrated < s.hydrated
      · simp only [hchanged, if_true]
        refine ⟨?_, fun _ hgo => nomatch hgo⟩
        rintro _ ⟨⟩
        refine ⟨fun hreturn => (nomatch hreturn), ?_, fun _ hstall => nomatch hstall⟩
        intro pre r' post hlog hdrop
        exact ⟨last_of_drop h.sorted hlog hdrop, _, rfl⟩
      · simp only [hchanged, if_false]
        have hle : s.hydrated ≤ r.hydrated := not_lt.mp fun hless => hchanged (.inr hless)
        by_cases hgrown : s.hydrated < r.hydrated
        · simp only [hgrown, if_true]
          refine ⟨fun _ hstop => (nomatch hstop), ?_⟩
          rintro _ ⟨⟩
          refine ⟨⟨h.timed, h.total, hbounded, ?_, hpairwise _ rfl hle, s.log ++ [.reading r], [],
            ?_, ?_⟩,
            .inl hgrown⟩
          · intro x hx
            rw [counts_append, counts_reading, counts_clock, counts_nil] at hx
            cases List.mem_append.mp hx with
            | inl hold => exact (h.below x hold).trans hle
            | inr hnew => exact (List.mem_singleton.mp hnew).le
          · simp
          · simp
        · simp only [hgrown, if_false]
          refine ⟨fun _ hstop => (nomatch hstop), ?_⟩
          rintro _ ⟨⟩
          have hsame : r.hydrated = s.hydrated := le_antisymm (not_lt.mp hgrown) hle
          obtain ⟨pre, post, hlog, hmem⟩ := h.stamped
          refine ⟨⟨h.timed, h.total, h.bounded, ?_, hpairwise _ rfl hle, pre, post ++ [.reading r],
            ?_, hmem⟩,
            .inr ⟨rfl, rfl⟩⟩
          · intro x hx
            rw [State.noted, counts_append, counts_reading, counts_nil] at hx
            cases List.mem_append.mp hx with
            | inl hold => exact h.below x hold
            | inr hnew => exact ((List.mem_singleton.mp hnew).trans hsame).le
          · simp [State.noted, hlog]

theorem atBoundary_leads {t : Turn} (h : Steady a s) : Leads a s (atBoundary a t s) := by
  unfold atBoundary
  split
  · rename_i hstall
    refine ⟨?_, fun _ hgo => nomatch hgo⟩
    rintro _ ⟨⟩
    exact h.stalled (by linarith)
  · refine ⟨fun _ hstop => (nomatch hstop), ?_⟩
    rintro _ ⟨⟩
    exact ⟨h.noted rfl, .inr ⟨rfl, rfl⟩⟩

theorem Leads.of_onward {s' : State} {next : Result ⊕ State} (hstep : Onward s s')
    (h : Leads a s' next) : Leads a s next := by
  refine ⟨h.stop, ?_⟩
  intro s'' hnext
  obtain ⟨hsteady, honward⟩ := h.goOn s'' hnext
  exact ⟨hsteady, hstep.trans honward⟩

theorem Leads.onward {s' : State} (hsteady : Steady a s') (hstep : Onward s s') :
    Leads a s (.inr s') := by
  refine ⟨fun _ hstop => (nomatch hstop), ?_⟩
  rintro _ ⟨⟩
  exact ⟨hsteady, hstep⟩

theorem afterWait_leads {t : Turn} {slice : ℤ} (h : Steady a s) :
    Leads a s (afterWait a t slice s) := by
  have hlook : Leads a s (look a t.after t.progressedAgain s) := look_leads h
  unfold afterWait
  cases hnext : look a t.after t.progressedAgain s with
  | inl result =>
    refine ⟨?_, fun _ hgo => nomatch hgo⟩
    rintro _ ⟨⟩
    exact hlook.stop result hnext
  | inr s' =>
    obtain ⟨hsteady, hstep⟩ := hlook.goOn s' hnext
    simp only
    split
    · exact .onward hsteady hstep
    · split
      · split
        · refine ⟨?_, fun _ hgo => nomatch hgo⟩
          rintro _ ⟨⟩
          exact .of_sorted hsteady.sorted
        · exact .of_onward hstep (atBoundary_leads hsteady)
      · split
        · exact .onward hsteady hstep
        · exact .of_onward hstep (atBoundary_leads hsteady)

/-- Truncation does not move a difference across a positive bound. -/
theorem le_truncate {x : ℚ} {n : ℕ} (hn : 0 < n) : n ≤ truncate x ↔ n ≤ x := by
  rw [truncate]
  split
  · rw [Int.le_floor]
    rfl
  · rename_i hneg
    have hx : x < 0 := not_le.mp hneg
    have hceil : ⌈x⌉ ≤ 0 := Int.ceil_le.mpr hx.le
    have hpos : (0 : ℚ) < n := Nat.cast_pos.mpr hn
    exact iff_of_false (by omega) (not_le.mpr (hx.trans hpos))

/-- A turn that goes on without progress was made before the timeout. -/
theorem turn_leads {t : Turn} (h : Steady a s) :
    Leads a s (turn a t s) ∧ ∀ s', turn a t s = .inr s' → s.hydrated < s'.hydrated ∨
      s'.hydrated = s.hydrated ∧ s'.progressAt = s.progressAt ∧
        t.checked < s.progressAt + a.timeout := by
  have hlook : Leads a s (look a t.before t.progressed s) := look_leads h
  unfold turn
  cases hevent : eventNumber a t.events with
  | error message =>
    refine ⟨⟨?_, fun _ hgo => nomatch hgo⟩, fun _ hgo => nomatch hgo⟩
    rintro _ ⟨⟩
    exact .of_sorted h.sorted
  | ok event =>
    cases hnext : look a t.before t.progressed s with
    | inl result =>
      refine ⟨⟨?_, fun _ hgo => nomatch hgo⟩, fun _ hgo => nomatch hgo⟩
      rintro _ ⟨⟩
      exact hlook.stop result hnext
    | inr s₁ =>
      obtain ⟨hsteady, hstep⟩ := hlook.goOn s₁ hnext
      simp only
      split
      · rename_i hlate
        refine ⟨⟨?_, fun _ hgo => nomatch hgo⟩, fun _ hgo => nomatch hgo⟩
        rintro _ ⟨⟩
        have hsince := (le_truncate h.timed).mp (sub_nonpos.mp hlate)
        exact hsteady.stalled (by linarith)
      · rename_i htime
        have hchecked : t.checked < s₁.progressAt + a.timeout := by
          by_contra hlate
          have hsince : a.timeout ≤ truncate (t.checked - s₁.progressAt) :=
            (le_truncate h.timed).mpr (by linarith)
          exact htime (sub_nonpos.mpr hsince)
        have hnoted : Onward s (s₁.noted [.clock t.checked, .clock t.waitStarted,
          .clock t.waitEnded]) := hstep
        have hafter := @afterWait_leads a _ t
          (min (min (a.timeout - truncate (t.checked - s₁.progressAt)) 60) a.commandTimeout)
          (hsteady.noted (show counts [.clock t.checked, .clock t.waitStarted,
            .clock t.waitEnded] = [] from rfl))
        refine ⟨hafter.of_onward hnoted, ?_⟩
        intro s' hs'
        have hlast : Onward s₁ s' := (hafter.goOn s' hs').2
        rcases hstep with hless | ⟨hcount, hsince⟩
        · exact .inl (hless.trans_le hlast.le)
        · rcases hlast with hless | ⟨hcount', hsince'⟩
          · exact .inl (hcount ▸ hless)
          · exact .inr ⟨hcount'.trans hcount, hsince'.trans hsince, hsince ▸ hchecked⟩

/-- A turn's time is at least `n` steps after the first one. -/
theorem checked_ge {turns : ℕ → Turn} {δ : ℚ}
    (hclock : ∀ n, (turns n).checked + δ ≤ (turns (n + 1)).checked) (n : ℕ) :
    (turns 0).checked + n * δ ≤ (turns n).checked := by
  induction n with
  | zero => simp
  | succ n ih =>
    have hstep := hclock n
    push_cast
    linarith

/-- Outside, the regions still to hydrate; inside, the turns until the timeout has passed. -/
theorem ends_of_steady {turns : ℕ → Turn} {δ : ℚ} (hδ : 0 < δ)
    (hclock : ∀ n, (turns n).checked + δ ≤ (turns (n + 1)).checked) {n : ℕ} (h : Steady a s) :
    ∃ result, Ends (round a turns) (n, s) result ∧ Sound a result := by
  induction hleft : a.clone.total - s.hydrated using Nat.strong_induction_on generalizing n s with
  | _ left ih =>
    obtain ⟨N, hN⟩ := exists_nat_ge ((s.progressAt + a.timeout - (turns 0).checked) / δ)
    have hlate : ∀ m, N ≤ m → s.progressAt + a.timeout ≤ (turns m).checked := by
      intro m hm
      have hcast : (N : ℚ) ≤ m := Nat.cast_le.mpr hm
      have htime := checked_ge hclock m
      have hfar := (div_le_iff₀ hδ).mp (hN.trans hcast)
      linarith
    have hwait : ∀ k m (s₁ : State), N - m = k → Steady a s₁ → s₁.hydrated = s.hydrated →
        s₁.progressAt = s.progressAt → ∃ result, Ends (round a turns) (m, s₁) result ∧
          Sound a result := by
      intro k
      induction k using Nat.strong_induction_on with
      | _ k ihk =>
        intro m s₁ hk hsteady hcount hsince
        obtain ⟨hleads, hgo⟩ := turn_leads (t := turns m) hsteady
        cases hturn : turn a (turns m) s₁ with
        | inl result =>
          exact ⟨result, .stop (by rw [round, hturn]), hleads.stop result hturn⟩
        | inr s₂ =>
          have hround : round a turns (m, s₁) = .inr (m + 1, s₂) := by rw [round, hturn]
          have hsteady₂ := (hleads.goOn s₂ hturn).1
          have hrest : ∃ result, Ends (round a turns) (m + 1, s₂) result ∧ Sound a result := by
            rcases hgo s₂ hturn with hless | ⟨hcount₂, hsince₂, hearly⟩
            · have hbounded := hsteady₂.bounded
              exact ih (a.clone.total - s₂.hydrated) (by omega) hsteady₂ rfl
            · have hbefore : m < N := by
                by_contra hpast
                have := hlate m (not_lt.mp hpast)
                rw [hsince] at hearly
                linarith
              exact ihk (N - (m + 1)) (by omega) (m + 1) s₂ rfl hsteady₂ (hcount₂.trans hcount)
                (hsince₂.trans hsince)
          obtain ⟨result, hends, hsound⟩ := hrest
          exact ⟨result, .again hround hends, hsound⟩
    exact hwait _ n s rfl h rfl rfl

theorem begin_steady {first : Except String (List String)} {started : ℚ}
    (h : begin a first started = .inr s) : Steady a s := by
  unfold begin at h
  split at h
  · cases h
  · rename_i htimeout
    split at h
    · cases h
    · rename_i r hread
      obtain ⟨htotal, hbounded⟩ := verifyCloneStatus_spec hread
      split at h
      · cases h
      · cases h
        refine ⟨by omega, htotal, hbounded, ?_, ?_, [.reading r], [], rfl, ?_⟩
        · simp
        · simp
        · simp

theorem begin_sound {first : Except String (List String)} {started : ℚ} {result : Result}
    (h : begin a first started = .inl result) : Sound a result := by
  unfold begin at h
  split at h
  · cases h
    exact .of_sorted .nil
  · split at h
    · cases h
      exact .of_sorted .nil
    · rename_i r hread
      split at h
      · rename_i hcomplete
        cases h
        obtain ⟨hall, hnone⟩ : r.hydrated = r.total ∧ r.hydrating = 0 := by
          simpa [Reading.complete] using hcomplete
        refine ⟨fun _ => ⟨[], r, rfl, hall, hnone⟩, ?_, fun _ hstall => nomatch hstall⟩
        intro pre r' post hlog hdrop
        exact absurd hdrop (no_drop (List.pairwise_singleton _ _) hlog)
      · cases h

end

/-- The wait ends, with one result, and the result is sound: it returns only right after a complete
reading, dies at a reading below an earlier one,
  and stalls only after a timeout without progress. -/
theorem hydration_wait_settles (a : Arguments) (first : Except String (List String)) (started : ℚ)
    (turns : ℕ → Turn) {δ : ℚ} (hδ : 0 < δ)
    (hclock : ∀ n, (turns n).checked + δ ≤ (turns (n + 1)).checked) :
    ∃ result, (∀ other, Waits a first started turns other ↔ other = result) ∧ Sound a result := by
  unfold Waits
  cases hbegin : begin a first started with
  | inl stop => exact ⟨stop, fun other => Iff.rfl, begin_sound hbegin⟩
  | inr s =>
    obtain ⟨result, hends, hsound⟩ := ends_of_steady (n := 0) hδ hclock (begin_steady hbegin)
    refine ⟨result, fun other => ⟨fun h => h.unique hends, ?_⟩, hsound⟩
    rintro rfl
    exact hends

/-- Thirteen regions, five of them hydrated, and no progress. -/
def slowClone : Arguments := ⟨⟨"slt-clone", 100, 8, by decide⟩, 60, 5⟩

def slowStatus : Except String (List String) := .ok ["0 100 clone 8 1/2 8 5/13 1 0 rw"]

def slowTurn (n : ℕ) : Turn where
  events := .ok ["7"]
  before := slowStatus
  progressed := n
  checked := n
  waitStarted := n
  wait := .ok ()
  waitEnded := n
  after := slowStatus
  progressedAgain := n
  closing := n
  disabled := .ok ()

theorem hydration_wait_settles_slow : observe slowClone slowStatus = .ok ⟨5, 13, 1⟩ ∧
    ∃ result, (∀ other, Waits slowClone slowStatus 0 slowTurn other ↔ other = result) ∧
      Sound slowClone result :=
  ⟨by decide +kernel, hydration_wait_settles slowClone slowStatus 0 slowTurn one_pos
    (by intro n; simp [slowTurn])⟩

end SharedLvmThin.Hydration
