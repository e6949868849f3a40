import SharedLvmThin.GuardState

/-! What each call of the guard state does: an observation keeps or attaches the registered
epochs and fences on the first one without exact evidence, `prepare` registers one epoch and
`release` removes one with proof. -/

namespace SharedLvmThin.Guard
open Perl

variable {Time : Type} [LinearOrder Time] [HAdd Time ℕ Time]

/-! ## Epochs under an observation -/

/-- An epoch that an observation has seen: unchanged, or attached. -/
def Evolves (e e' : Epoch Time) : Prop :=
  e' = e ∨ (e.phase = .pendingAttach ∧ e' = { e with phase := .protectedRuntime })

def EvolvesAll (m m' : AList fun _ : String => Epoch Time) : Prop :=
  ∀ k, (m.lookup k = none ∧ m'.lookup k = none) ∨
    ∃ e e', m.lookup k = some e ∧ m'.lookup k = some e' ∧ Evolves e e'

omit [LinearOrder Time] [HAdd Time ℕ Time] in
theorem evolvesAll_refl (m : AList fun _ : String => Epoch Time) : EvolvesAll m m := by
  intro k
  cases hk : m.lookup k with
  | none => exact Or.inl ⟨rfl, rfl⟩
  | some e => exact Or.inr ⟨e, e, rfl, rfl, Or.inl rfl⟩

omit [LinearOrder Time] [HAdd Time ℕ Time] in
theorem Evolves.trans {e e' e'' : Epoch Time} (h : Evolves e e') (h' : Evolves e' e'') :
    Evolves e e'' := by
  obtain rfl | ⟨hp, rfl⟩ := h
  · exact h'
  · obtain rfl | ⟨hp', -⟩ := h'
    · exact Or.inr ⟨hp, rfl⟩
    · exact absurd hp' (by simp)

omit [LinearOrder Time] [HAdd Time ℕ Time] in
theorem evolvesAll_insert {m : AList fun _ : String => Epoch Time} {k : String}
    {e e' : Epoch Time} (hk : m.lookup k = some e) (he : Evolves e e') :
    EvolvesAll m (m.insert k e') := by
  intro j
  by_cases hj : j = k
  · subst hj
    exact Or.inr ⟨e, e', hk, AList.lookup_insert m, he⟩
  · rw [AList.lookup_insert_ne hj]
    exact evolvesAll_refl m j

omit [LinearOrder Time] [HAdd Time ℕ Time] in
theorem EvolvesAll.trans {m m' m'' : AList fun _ : String => Epoch Time}
    (h : EvolvesAll m m') (h' : EvolvesAll m' m'') : EvolvesAll m m'' := by
  intro k
  obtain ⟨hm, hm'⟩ | ⟨e, e', hm, hm', he⟩ := h k
  · obtain ⟨-, hm''⟩ | ⟨e, -, hsome, -⟩ := h' k
    · exact Or.inl ⟨hm, hm''⟩
    · rw [hm'] at hsome
      cases hsome
  · obtain ⟨hnone, -⟩ | ⟨d, e'', hsome, hm'', hd⟩ := h' k
    · rw [hm'] at hnone
      cases hnone
    · obtain rfl : e' = d := Option.some.inj (hm'.symm.trans hsome)
      exact Or.inr ⟨e, e'', hm, hm'', he.trans hd⟩

variable {entries : List PoolEntry} {now : Time} {localNode : Option String} {k : String}

omit [HAdd Time ℕ Time] in
/-- A surviving epoch is backed by an exact pool, attached or still within its deadline. -/
theorem checkEpoch_eq_ok {e e' : Epoch Time}
    (h : checkEpoch entries now localNode k e = .ok e') :
    Evolves e e' ∧ ∃ pool, findPool entries k = some pool ∧
      pool.ownerEpoch.getD "" = e.ownerEpoch ∧ pool.mapperUuid.getD "" = e.mapperUuid ∧
      (pool.attached = true ∨ (e.phase = .pendingAttach ∧ ¬ e.deadline ≤ now)) := by
  unfold checkEpoch at h
  split at h
  · cases h
  · rename_i pool hpool
    simp only [bind_eq_ok, dieIf_eq_ok, pure_eq_ok, exists_const, decide_eq_false_iff_not,
      ne_eq, not_not] at h
    obtain ⟨howner, hmapper, -, d, hadv, hruntime, rfl⟩ := h
    unfold advancePhase at hadv
    split_ifs at hadv with hphase hatt hdead hqemu
    · obtain rfl := Except.ok.inj hadv
      exact ⟨Or.inr ⟨hphase, rfl⟩, pool, hpool, howner, hmapper, Or.inl hatt⟩
    · obtain rfl := Except.ok.inj hadv
      exact ⟨Or.inl rfl, pool, hpool, howner, hmapper, Or.inr ⟨hphase, hdead⟩⟩
    · obtain rfl := Except.ok.inj hadv
      refine ⟨Or.inl rfl, pool, hpool, howner, hmapper, Or.inl ?_⟩
      have hprot : e.phase = .protectedRuntime := by
        cases he : e.phase with
        | pendingAttach => exact absurd he hphase
        | protectedRuntime => rfl
      simpa [hprot] using hruntime

omit [HAdd Time ℕ Time] in
theorem observeEpochs_evolves {keys : List String} :
    ∀ {m : AList fun _ : String => Epoch Time} {b : Bool},
      (∀ m' reason, observeEpochs entries now localNode keys m b = .error (m', reason) →
        EvolvesAll m m') ∧
      (∀ m' b', observeEpochs entries now localNode keys m b = .ok (m', b') →
        EvolvesAll m m') := by
  induction keys with
  | nil =>
    intro m b
    refine ⟨fun m' reason h => absurd h (by simp [observeEpochs]), fun m' b' h => ?_⟩
    simp only [observeEpochs, Except.ok.injEq, Prod.mk.injEq] at h
    exact h.1 ▸ evolvesAll_refl m
  | cons k keys ih =>
    intro m b
    simp only [observeEpochs]
    split
    · exact ih
    · rename_i e hk
      split
      · refine ⟨fun m' reason h => ?_, fun m' b' h => by cases h⟩
        obtain ⟨rfl, -⟩ := Prod.mk.inj (Except.error.inj h)
        exact evolvesAll_refl m
      · rename_i e' hcheck
        have hstep := evolvesAll_insert hk (checkEpoch_eq_ok hcheck).1
        exact ⟨fun m' reason h => hstep.trans (ih.1 m' reason h),
          fun m' b' h => hstep.trans (ih.2 m' b' h)⟩

omit [HAdd Time ℕ Time] in
/-- The loop passes only if every visited epoch does. -/
theorem observeEpochs_visits {keys : List String} (hnodup : keys.Nodup) :
    ∀ {m m' : AList fun _ : String => Epoch Time} {b b' : Bool},
      observeEpochs entries now localNode keys m b = .ok (m', b') →
      ∀ k ∈ keys, ∀ e, m.lookup k = some e →
        ∃ e', checkEpoch entries now localNode k e = .ok e' := by
  induction keys with
  | nil => exact fun _ k hk => absurd hk (List.not_mem_nil)
  | cons j keys ih =>
    intro m m' b b' h k hk e he
    obtain ⟨hj, hnodup⟩ := List.nodup_cons.mp hnodup
    simp only [observeEpochs] at h
    split at h
    · rename_i hnone
      obtain rfl | hk := List.mem_cons.mp hk
      · rw [he] at hnone
        cases hnone
      · exact ih hnodup h k hk e he
    · rename_i d hd
      split at h
      · cases h
      · rename_i d' hcheck
        obtain rfl | hk := List.mem_cons.mp hk
        · obtain rfl : e = d := Option.some.inj (he.symm.trans hd)
          exact ⟨d', hcheck⟩
        · have hne : k ≠ j := by
            intro heq
            exact hj (heq ▸ hk)
          exact ih hnodup h k hk e (by rw [AList.lookup_insert_ne hne]; exact he)

/-! ## What each call does -/

omit [LinearOrder Time] [HAdd Time ℕ Time] in
theorem checkGuardName_eq_ok {name : String} {value : Option String} {v : String} :
    checkGuardName name value = .ok v ↔ isGuardName value = true ∧ value = some v := by
  simp only [checkGuardName, bind_eq_ok, dieIf_eq_ok, pure_eq_ok, exists_const]
  cases value with
  | none => simp [isGuardName]
  | some w => simp

omit [HAdd Time ℕ Time] [LinearOrder Time] in
theorem requireTime_eq_ok {now : Option Time} {t : Time} :
    requireTime now = .ok t ↔ now = some t := by
  cases now with
  | none => simp [requireTime]
  | some u => simp [requireTime]

variable {s s' : GuardState Time} {reply : Reply}

omit [LinearOrder Time] in
theorem prepare_eq_ok {request : PrepareRequest Time}
    (h : prepare request s = .ok (s', reply)) :
    s.uncertaintyLatched = false ∧ ∃ k oe mapper t, request.poolUuid = some k ∧
      request.ownerEpoch = some oe ∧ request.mapperUuid = some mapper ∧ request.now = some t ∧
      (∀ e, s.epochs.lookup k = some e → e.ownerEpoch = oe) ∧
      s' = { s with
        epochs := s.epochs.insert k ⟨oe, mapper, .pendingAttach, t + s.pendingTimeout⟩
        state := .armedPending
        reason := "watchdog armed before local thin-pool activation" } ∧
      reply = ⟨.ackPrepared, .armedPending, none⟩ := by
  simp only [prepare, bind_eq_ok, dieIf_eq_ok, pure_eq_ok, exists_const, checkGuardName_eq_ok,
    requireTime_eq_ok, Prod.mk.injEq] at h
  obtain ⟨hlatch, -, -, k, ⟨-, hk⟩, oe, ⟨-, hoe⟩, mapper, ⟨-, hmapper⟩, t, ht, hother, rfl, rfl⟩ := h
  refine ⟨hlatch, k, oe, mapper, t, hk, hoe, hmapper, ht, ?_, rfl, rfl⟩
  intro e he
  simpa [he] using hother

omit [HAdd Time ℕ Time] in
theorem observe_cases (keys : List String) (sample : Sample Time) (s : GuardState Time) :
    (∃ reason m, EvolvesAll s.epochs m ∧ (s.uncertaintyLatched = true → m = s.epochs) ∧
      observe keys sample s = fence reason { s with epochs := m }) ∨
    (s.uncertaintyLatched = false ∧ ∃ entries now m b, sample.pools = .array entries ∧
      sample.now = some now ∧
      observeEpochs entries now sample.localNode keys s.epochs true = .ok (m, b) ∧
      observe keys sample s = settle m b s) := by
  have hsame : EvolvesAll s.epochs s.epochs := evolvesAll_refl s.epochs
  unfold observe
  split
  · exact Or.inl ⟨_, _, hsame, fun _ => rfl, rfl⟩
  · rename_i entries now hsample
    split_ifs with hquorum hlatch hpool
    · exact Or.inl ⟨_, _, hsame, fun _ => rfl, rfl⟩
    · exact Or.inl ⟨_, _, hsame, fun _ => rfl, rfl⟩
    · exact Or.inl ⟨_, _, hsame, fun _ => rfl, rfl⟩
    · split
      · rename_i m reason hloop
        exact Or.inl ⟨reason, m, observeEpochs_evolves.1 _ _ hloop,
          fun hl => absurd hl hlatch, rfl⟩
      · rename_i m b hloop
        have hread : sample.pools = .array entries ∧ sample.now = some now := by
          unfold checkSample at hsample
          split at hsample
          · split_ifs at hsample
            cases hsample
            exact ⟨by assumption, by assumption⟩
          · cases hsample
        exact Or.inr ⟨by simpa using hlatch, entries, now, m, b, hread.1, hread.2, hloop, rfl⟩

omit [HAdd Time ℕ Time] in
theorem observe_evolves (keys : List String) (sample : Sample Time) (s : GuardState Time) :
    EvolvesAll s.epochs (observe keys sample s).1.epochs := by
  obtain ⟨reason, m, hm, -, heq⟩ | ⟨-, entries, now, m, b, -, -, hloop, heq⟩ :=
    observe_cases keys sample s
  · rw [heq]
    exact hm
  · rw [heq]
    exact observeEpochs_evolves.2 _ _ hloop

omit [HAdd Time ℕ Time] in
theorem observe_action (keys : List String) (sample : Sample Time) (s : GuardState Time) :
    (observe keys sample s).2.action ≠ .ackPrepared := by
  obtain ⟨reason, m, -, -, heq⟩ | ⟨-, entries, now, m, b, -, -, -, heq⟩ :=
    observe_cases keys sample s
  · rw [heq]
    simp [fence]
  · rw [heq]
    simp only [settle]
    split_ifs <;> simp

omit [LinearOrder Time] [HAdd Time ℕ Time] in
theorem release_eq_ok {proof : ReleaseProof} (h : release proof s = .ok (s', reply)) :
    s.uncertaintyLatched = false ∧ (∃ e, s.epochs.lookup (proof.poolUuid.getD "") = some e ∧
      e.ownerEpoch = proof.ownerEpoch.getD "") ∧ proof.qemuAbsent = some "1" ∧
      proof.mapperAbsent = some "1" ∧ proof.ownerReleased = some "1" ∧
      s'.epochs = s.epochs.erase (proof.poolUuid.getD "") ∧
      s'.uncertaintyLatched = false ∧ s'.pendingTimeout = s.pendingTimeout ∧
      reply.action = if s'.epochs.keys = [] then .cleanDisarm else .refreshWatchdog := by
  simp only [release, bind_eq_ok, dieIf_eq_ok, pure_eq_ok, exists_const, requireProof,
    Prod.mk.injEq] at h
  obtain ⟨hlatch, e, he, howner, hqemu, hmapper, hreleased, rfl, rfl⟩ := h
  have hlookup : s.epochs.lookup (proof.poolUuid.getD "") = some e := by
    unfold requireEpoch at he
    split at he
    · cases he
    · rename_i d hd
      rw [hd, Except.ok.inj he]
  refine ⟨hlatch, ⟨e, hlookup, Eq.symm (by simpa using howner)⟩, ?_, ?_, ?_, rfl,
    hlatch, rfl, rfl⟩
  · simpa using hqemu
  · simpa using hmapper
  · simpa using hreleased

end SharedLvmThin.Guard
