import SharedLvmThin.GuardDaemonRuns

/-! Where an answer in the journal comes from. Every answer is kept under its own request ID, and an
answer of success was given by the engine to a connection of the run. -/

namespace SharedLvmThin.GuardDaemon
open Perl Guard

variable {Time : Type} {d : Daemon Time} {c : Connection Time}

def Keyed (d : Daemon Time) : Prop := ∀ entry ∈ d.replay, entry.2.requestId = entry.1

/-- An entry that a refusal may put into the journal. -/
def Refused (entry : String × Response) : Prop :=
  entry.2.requestId = entry.1 ∧ entry.2.ok = false

theorem mem_refuse {id error : String} {entry : String × Response}
    (h : entry ∈ (d.refuse id error).1.replay) : entry ∈ d.replay ∨ Refused entry := by
  simp only [Daemon.refuse] at h
  split_ifs at h with hnew
  · obtain rfl | hold := List.mem_cons.mp h
    · exact Or.inr ⟨rfl, rfl⟩
    · exact Or.inl hold
  · exact Or.inl h

theorem mem_of_lookup {id : String} {r : Response} (h : d.replay.lookup id = some r) :
    (id, r) ∈ d.replay := by
  obtain ⟨before, after, heq, -⟩ := List.lookup_eq_some_iff.mp h
  rw [heq]
  exact List.mem_append_right before List.mem_cons_self

theorem mem_serveCached {id : String} {r : Response} {invoked : Bool} {entry : String × Response}
    (h : entry ∈ (d.serveCached c id r invoked).1.replay) : entry ∈ d.replay ∨ Refused entry := by
  unfold Daemon.serveCached at h
  split at h
  · exact Or.inl h
  · exact mem_refuse h

theorem serveCached_engine (d : Daemon Time) (c : Connection Time) (id : String) (r : Response)
    (invoked : Bool) : (d.serveCached c id r invoked).1.engine = d.engine := by
  unfold Daemon.serveCached
  split
  · rfl
  · rfl

theorem serveCached_invoked (d : Daemon Time) (c : Connection Time) (id : String) (r : Response)
    (invoked : Bool) : (d.serveCached c id r invoked).2.requestId = some id ∧
      (d.serveCached c id r invoked).2.invoked = invoked := by
  unfold Daemon.serveCached
  split
  · exact ⟨rfl, rfl⟩
  · exact ⟨rfl, rfl⟩

variable [HAdd Time ℕ Time]

/-! ## One event -/

/-- The engine gave the answer `r` to the request `q`. -/
structure Gave (d : Daemon Time) (c : Connection Time) (q : Request) (r : Response) : Prop where
  requestId : q.requestId = r.requestId
  result : (d.dispatch c q).2 = .ok (r.state, r.action, r.message)
  engine : (d.answer c q).1.engine = (d.dispatch c q).1
  served : (d.answer c q).2.requestId = some r.requestId
  invoked : (d.answer c q).2.invoked = decide (q.op ≠ .status)

theorem mem_answer {q : Request} {entry : String × Response}
    (h : entry ∈ (d.answer c q).1.replay) :
    entry ∈ d.replay ∨ Refused entry ∨ entry.2.requestId = entry.1 ∧ Gave d c q entry.2 := by
  unfold Daemon.answer at h
  split at h
  · exact (mem_serveCached h).imp_right Or.inl
  · rename_i hnew
    split_ifs at h with hfull
    · exact (mem_refuse h).imp_right Or.inl
    · split at h
      · exact (mem_refuse h).imp_right Or.inl
      · rename_i engine state action message hdispatch
        rcases mem_serveCached h with hmem | hrefused
        · obtain rfl | hold := List.mem_cons.mp hmem
          · refine Or.inr (Or.inr ⟨rfl, ?_⟩)
            have hanswer : d.answer c q = Daemon.serveCached { d with engine := engine, replay :=
                (q.requestId, ⟨true, q.requestId, state, action, message⟩) :: d.replay }
                c q.requestId ⟨true, q.requestId, state, action, message⟩
                (decide (q.op ≠ .status)) := by
              unfold Daemon.answer
              rw [hnew]
              simp only [hfull, if_false, hdispatch]
            exact
              { requestId := rfl
                result := by rw [hdispatch]
                engine := by rw [hanswer, serveCached_engine, hdispatch]
                served := by rw [hanswer, (serveCached_invoked _ _ _ _ _).1]
                invoked := by rw [hanswer, (serveCached_invoked _ _ _ _ _).2] }
          · exact Or.inl hold
        · exact Or.inr (Or.inl hrefused)

variable [LinearOrder Time] (decodeJson : String → Option Value)

/-- A connection that is served carries a request to which the engine gives the answer. -/
structure Origin (d : Daemon Time) (c : Connection Time) (q : Request) (r : Response) : Prop where
  decoded : c.input >>= decodeGuardRequest decodeJson = .ok q
  gave : Gave d c q r
  step : d.step decodeJson (.connection c) = ((d.answer c q).1, [(d.answer c q).2])

theorem mem_step {event : Event Time} {entry : String × Response}
    (h : entry ∈ (d.step decodeJson event).1.replay) :
    entry ∈ d.replay ∨ Refused entry ∨ entry.2.requestId = entry.1 ∧
      ∃ c q, event = .connection c ∧ Origin decodeJson d c q entry.2 := by
  by_cases hrunning : d.running = true
  · cases event with
    | observe keys now provider io =>
      unfold Daemon.step at h
      rw [if_pos hrunning] at h
      dsimp only at h
      rw [observe_replay] at h
      exact Or.inl h
    | stop =>
      unfold Daemon.step at h
      rw [if_pos hrunning] at h
      exact Or.inl h
    | connection c =>
      cases hdecode : c.input >>= decodeGuardRequest decodeJson with
      | error error =>
        have hstep : (d.step decodeJson (.connection c)).1 = (d.refuse noRequestId error).1 := by
          unfold Daemon.step Daemon.handle
          rw [if_pos hrunning]
          dsimp only
          rw [hdecode]
          rfl
        rw [hstep] at h
        exact (mem_refuse h).imp_right Or.inl
      | ok q =>
        have hstep := step_connection decodeJson hrunning hdecode
        rw [hstep] at h
        rcases mem_answer h with hold | hrefused | ⟨hid, hgave⟩
        · exact Or.inl hold
        · exact Or.inr (Or.inl hrefused)
        · exact Or.inr (Or.inr ⟨hid, c, q, rfl, hdecode, hgave, hstep⟩)
  · unfold Daemon.step at h
    rw [if_neg hrunning] at h
    exact Or.inl h

theorem Keyed.step (hkeyed : Keyed d) (event : Event Time) :
    Keyed (d.step decodeJson event).1 := by
  intro entry hentry
  rcases mem_step decodeJson hentry with hold | hrefused | ⟨hid, -⟩
  · exact hkeyed entry hold
  · exact hrefused.1
  · exact hid

/-! ## Runs -/

theorem Keyed.run (hkeyed : Keyed d) (events : List (Event Time)) :
    Keyed (d.run decodeJson events).1 := by
  induction events generalizing d with
  | nil => exact hkeyed
  | cons event events ih => exact ih (hkeyed.step decodeJson event)

end SharedLvmThin.GuardDaemon
