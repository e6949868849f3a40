import SharedLvmThin.GuardStateRuns

/-! The summary state of the guard against the phases of its registered epochs. `prepare` and
`observe` restore it from any state; `release` reports the rest as protected without looking
at it. -/

namespace SharedLvmThin.Guard
open Perl Runs

variable {Time : Type}

def AllProtected (epochs : AList fun _ : String => Epoch Time) : Prop :=
  ∀ k e, epochs.lookup k = some e → e.phase = .protectedRuntime

def SomePending (epochs : AList fun _ : String => Epoch Time) : Prop :=
  ∃ k e, epochs.lookup k = some e ∧ e.phase = .pendingAttach

structure SummaryExact (s : GuardState Time) : Prop where
  idle : s.state = .idle ↔ s.epochs.keys = []
  protectedRuntime : s.state = .protectedRuntime ↔
    s.epochs.keys ≠ [] ∧ AllProtected s.epochs
  armedPending : s.state = .armedPending ↔ SomePending s.epochs

theorem somePending_iff {epochs : AList fun _ : String => Epoch Time} :
    SomePending epochs ↔ ¬ AllProtected epochs := by
  constructor
  · intro h hall
    obtain ⟨k, e, he, hphase⟩ := h
    rw [hall k e he] at hphase
    cases hphase
  · intro h
    simp only [AllProtected, not_forall] at h
    obtain ⟨k, e, he, hphase⟩ := h
    refine ⟨k, e, he, ?_⟩
    cases hcase : e.phase with
    | pendingAttach => rfl
    | protectedRuntime => exact absurd hcase hphase

theorem SomePending.keys_ne {epochs : AList fun _ : String => Epoch Time}
    (h : SomePending epochs) : epochs.keys ≠ [] := by
  obtain ⟨k, e, he, -⟩ := h
  have hmem := AList.lookup_isSome.mp (by rw [he]; rfl : (epochs.lookup k).isSome)
  intro hnil
  rw [AList.mem_keys, hnil] at hmem
  cases hmem

theorem allProtected_of_keys {epochs : AList fun _ : String => Epoch Time}
    (h : epochs.keys = []) : AllProtected epochs := by
  by_contra hnot
  exact (somePending_iff.mpr hnot).keys_ne h

/-! ## One call -/

variable [LinearOrder Time] [HAdd Time ℕ Time] {s s' : GuardState Time}
variable {entries : List PoolEntry} {now : Time} {localNode : Option String}

omit [HAdd Time ℕ Time] in
/-- The loop's flag says whether every visited epoch is protected now. -/
theorem observeEpochs_flag {keys : List String} (hnodup : keys.Nodup) :
    ∀ {m m' : AList fun _ : String => Epoch Time} {b b' : Bool},
      observeEpochs entries now localNode keys m b = .ok (m', b') →
      (∀ k, k ∉ keys → m'.lookup k = m.lookup k) ∧
      (b' = true ↔ b = true ∧ ∀ k ∈ keys, ∀ e, m'.lookup k = some e →
        e.phase = .protectedRuntime) := by
  induction keys with
  | nil =>
    intro m m' b b' h
    simp only [observeEpochs, Except.ok.injEq, Prod.mk.injEq] at h
    obtain ⟨rfl, rfl⟩ := h
    simp
  | cons j keys ih =>
    intro m m' b b' h
    obtain ⟨hj, hnodup⟩ := List.nodup_cons.mp hnodup
    simp only [observeEpochs] at h
    split at h
    · rename_i hnone
      obtain ⟨hframe, hflag⟩ := ih hnodup h
      refine ⟨fun k hk => hframe k fun hmem => hk (List.mem_cons_of_mem _ hmem), hflag.trans ?_⟩
      have hj' : m'.lookup j = none := (hframe j hj).trans hnone
      simp [hj']
    · rename_i e he
      split at h
      · cases h
      · rename_i e' hcheck
        obtain ⟨hframe, hflag⟩ := ih hnodup h
        have hj' : m'.lookup j = some e' := (hframe j hj).trans (AList.lookup_insert m)
        refine ⟨fun k hk => ?_, hflag.trans ?_⟩
        · rw [hframe k fun hmem => hk (List.mem_cons_of_mem _ hmem)]
          exact AList.lookup_insert_ne fun heq => hk (heq ▸ List.mem_cons_self)
        · simp [hj', and_assoc]

omit [HAdd Time ℕ Time] in
theorem observe_summary {keys : List String} {sample : Sample Time}
    (hkeys : keys.Perm s.epochs.keys) (hfence : (observe keys sample s).1.state ≠ .fencing) :
    SummaryExact (observe keys sample s).1 := by
  obtain ⟨reason, m, -, -, heq⟩ | ⟨-, entries, now, m, b, -, -, hloop, heq⟩ :=
    observe_cases keys sample s
  · rw [heq] at hfence
    exact absurd rfl hfence
  · rw [heq]
    have hnodup : keys.Nodup := hkeys.nodup_iff.mpr s.epochs.nodupKeys
    obtain ⟨hframe, hflag⟩ := observeEpochs_flag hnodup hloop
    have hall : b = true ↔ AllProtected m := by
      refine hflag.trans ⟨fun h k e he => ?_, fun h => ⟨rfl, fun k _ e he => h k e he⟩⟩
      by_cases hk : k ∈ keys
      · exact h.2 k hk e he
      · rw [hframe k hk] at he
        have hmem := AList.lookup_isSome.mp (by rw [he]; rfl : (s.epochs.lookup k).isSome)
        exact absurd (hkeys.mem_iff.mpr (AList.mem_keys.mp hmem)) hk
    by_cases hnil : m.keys = []
    · have hprotected := allProtected_of_keys hnil
      have hpending : ¬ SomePending m := fun h => h.keys_ne hnil
      exact ⟨by simp [settle, hnil], by simp [settle, hnil], by simp [settle, hnil, hpending]⟩
    · by_cases hb : b = true
      · have hprotected := hall.mp hb
        have hpending : ¬ SomePending m := fun h => somePending_iff.mp h hprotected
        exact ⟨by simp [settle, hnil, hb], by simp [settle, hnil, hb, hprotected],
          by simp [settle, hnil, hb, hpending]⟩
      · have hprotected : ¬ AllProtected m := fun h => hb (hall.mpr h)
        have hpending : SomePending m := somePending_iff.mpr hprotected
        exact ⟨by simp [settle, hnil, hb], by simp [settle, hnil, hb, hprotected],
          by simp [settle, hnil, hb, hpending]⟩

omit [LinearOrder Time] in
theorem prepare_summary {request : PrepareRequest Time} {reply : Reply}
    (h : prepare request s = .ok (s', reply)) : SummaryExact s' := by
  obtain ⟨-, k, oe, mapper, t, -, -, -, -, -, rfl, -⟩ := prepare_eq_ok h
  have hpending : SomePending (s.epochs.insert k
      ⟨oe, mapper, .pendingAttach, t + s.pendingTimeout⟩) :=
    ⟨k, _, AList.lookup_insert _, rfl⟩
  have hkeys := hpending.keys_ne
  have hall := somePending_iff.mp hpending
  exact ⟨by simp only [reduceCtorEq, false_iff]; exact hkeys,
    by simp only [reduceCtorEq, false_iff]; exact fun hp => hall hp.2,
    by simp only [true_iff]; exact hpending⟩

omit [LinearOrder Time] [HAdd Time ℕ Time] in
theorem release_state {proof : ReleaseProof} {reply : Reply}
    (h : release proof s = .ok (s', reply)) :
    s'.state = if s'.epochs.keys = [] then .idle else .protectedRuntime := by
  simp only [release, bind_eq_ok, dieIf_eq_ok, pure_eq_ok, exists_const, requireProof,
    Prod.mk.injEq] at h
  obtain ⟨-, e, -, -, -, -, -, rfl, -⟩ := h
  rfl

omit [LinearOrder Time] [HAdd Time ℕ Time] in
/-- A release leaves an exact summary just when nothing that stays is pending. -/
theorem release_summary {proof : ReleaseProof} {reply : Reply}
    (h : release proof s = .ok (s', reply)) :
    SummaryExact s' ↔ ¬ SomePending s'.epochs := by
  have hstate := release_state h
  constructor
  · intro hexact hpending
    have harmed := hexact.armedPending.mpr hpending
    rw [hstate, if_neg hpending.keys_ne] at harmed
    cases harmed
  · intro hnone
    have hall : AllProtected s'.epochs := by
      by_contra hnot
      exact hnone (somePending_iff.mpr hnot)
    by_cases hnil : s'.epochs.keys = []
    · exact ⟨by simp [hstate, hnil], by simp [hstate, hnil], by simp [hstate, hnil, hnone]⟩
    · exact ⟨by simp [hstate, hnil], by simp [hstate, hnil, hall], by simp [hstate, hnil, hnone]⟩

/-! ## Runs -/

def Call.Succeeds (call : Call Time) (s : GuardState Time) : Prop :=
  match call with
  | .prepare request => ∃ r, Guard.prepare request s = .ok r
  | .observe _ _ => True
  | .release proof => ∃ r, Guard.release proof s = .ok r

/-- A release that takes effect while another registered epoch waits for its attach. -/
def Call.LeavesPending (call : Call Time) (s : GuardState Time) : Prop :=
  match call with
  | .release proof => (∃ r, Guard.release proof s = .ok r) ∧ ∃ k e,
      k ≠ proof.poolUuid.getD "" ∧ s.epochs.lookup k = some e ∧ e.phase = .pendingAttach
  | _ => False

omit [LinearOrder Time] [HAdd Time ℕ Time] in
theorem somePending_release {proof : ReleaseProof} {reply : Reply}
    (h : release proof s = .ok (s', reply)) : SomePending s'.epochs ↔ ∃ k e,
      k ≠ proof.poolUuid.getD "" ∧ s.epochs.lookup k = some e ∧ e.phase = .pendingAttach := by
  obtain ⟨-, -, -, -, -, hepochs, -⟩ := release_eq_ok h
  simp only [SomePending, hepochs]
  constructor
  · intro hpending
    obtain ⟨k, e, he, hphase⟩ := hpending
    have hk : k ≠ proof.poolUuid.getD "" := by
      rintro rfl
      rw [AList.lookup_erase] at he
      cases he
    rw [AList.lookup_erase_ne hk] at he
    exact ⟨k, e, hk, he, hphase⟩
  · intro hpending
    obtain ⟨k, e, hk, he, hphase⟩ := hpending
    exact ⟨k, e, by rw [AList.lookup_erase_ne hk]; exact he, hphase⟩

/-- One call: its summary is exact unless it releases beside a waiting epoch. -/
theorem guardStep_summary {call : Call Time} (hstep : GuardStep s call s')
    (hok : call.Succeeds s) (hfence : s'.state ≠ .fencing) :
    SummaryExact s' ↔ ¬ call.LeavesPending s := by
  obtain ⟨hfits, rfl⟩ := hstep
  cases call with
  | prepare request =>
    obtain ⟨⟨s₁, reply⟩, hrun⟩ := hok
    have hnext : (Call.prepare request).next s = s₁ := by simp only [Call.next, hrun]
    rw [hnext]
    exact iff_of_true (prepare_summary hrun) not_false
  | observe keys sample => exact iff_of_true (observe_summary hfits hfence) not_false
  | release proof =>
    obtain ⟨⟨s₁, reply⟩, hrun⟩ := hok
    have hnext : (Call.release proof).next s = s₁ := by simp only [Call.next, hrun]
    rw [hnext, release_summary hrun, somePending_release hrun]
    exact not_congr ⟨fun h => ⟨⟨_, hrun⟩, h⟩, fun h => h.2⟩

omit [LinearOrder Time] [HAdd Time ℕ Time] in
theorem release_not_fencing {proof : ReleaseProof} {reply : Reply}
    (h : release proof s = .ok (s', reply)) : s'.state ≠ .fencing := by
  rw [release_state h]
  split_ifs <;> exact nofun

variable {σ : ℕ → GuardState Time} {calls : ℕ → Call Time} {n : ℕ}

/-- Over a run, the summary is exact after every successful call outside fencing just when no
release takes effect while another registered epoch waits for its attach. -/
theorem summary_exact_iff (hrun : IsTrace GuardStep σ calls n) :
    (∀ i < n, (calls i).Succeeds (σ i) → (σ (i + 1)).state ≠ .fencing →
      SummaryExact (σ (i + 1))) ↔ ∀ i < n, ¬ (calls i).LeavesPending (σ i) := by
  constructor
  · intro hexact i hi hleaves
    have hok : (calls i).Succeeds (σ i) ∧ (σ (i + 1)).state ≠ .fencing := by
      have hstep := (hrun i hi).2
      cases hcall : calls i with
      | prepare request => rw [hcall] at hleaves; exact hleaves.elim
      | observe keys sample => rw [hcall] at hleaves; exact hleaves.elim
      | release proof =>
        rw [hcall] at hleaves hstep
        obtain ⟨⟨s₁, reply⟩, hrelease⟩ := hleaves.1
        refine ⟨⟨_, hrelease⟩, ?_⟩
        rw [hstep]
        simp only [Call.next, hrelease]
        exact release_not_fencing hrelease
    exact (guardStep_summary (hrun i hi) hok.1 hok.2).mp (hexact i hi hok.1 hok.2) hleaves
  · intro hnone i hi hok hfence
    exact (guardStep_summary (hrun i hi) hok hfence).mpr (hnone i hi)

/-- Two pools wait for their attach, one of them is released. -/
def waitingCalls (i : ℕ) : Call ℕ :=
  match i with
  | 0 => prepareAt "mapper-a" 0
  | 1 => .prepare ⟨some admitted, some "pool-b", some "epoch-b", some "mapper-b", some 0⟩
  | _ => .release ⟨some "pool-b", some "epoch-b", some "1", some "1", some "1"⟩

theorem waiting_reported_protected : newGuardState (some "10") = .ok tenSeconds ∧
    IsTrace GuardStep (runFrom tenSeconds waitingCalls) waitingCalls 3 ∧
    (waitingCalls 2).Succeeds (runFrom tenSeconds waitingCalls 2) ∧
    (runFrom tenSeconds waitingCalls 3).state ≠ .fencing ∧
    ¬ SummaryExact (runFrom tenSeconds waitingCalls 3) := by
  refine ⟨rfl, isTrace_runFrom ?_, ?_, by decide +kernel, ?_⟩
  · intro i hi
    interval_cases i
    · trivial
    · trivial
    · trivial
  · exact ⟨_, rfl⟩
  · intro h
    have hpending : SomePending (runFrom tenSeconds waitingCalls 3).epochs :=
      ⟨"pool-a", ⟨"epoch-a", "mapper-a", .pendingAttach, 10⟩, rfl, rfl⟩
    have harmed := h.armedPending.mpr hpending
    revert harmed
    decide +kernel

/-- One pool attaches and is released. -/
def releasedCalls (i : ℕ) : Call ℕ :=
  match i with
  | 0 => prepareAt "mapper-a" 0
  | 1 => sampleAt "mapper-a" "1" 5
  | _ => .release ⟨some "pool-a", some "epoch-a", some "1", some "1", some "1"⟩

theorem releasedCalls_summary : SummaryExact (runFrom tenSeconds releasedCalls 2) ∧
    SummaryExact (runFrom tenSeconds releasedCalls 3) := by
  have hrun : IsTrace GuardStep (runFrom tenSeconds releasedCalls) releasedCalls 3 := by
    apply isTrace_runFrom
    intro i hi
    interval_cases i
    · trivial
    · change ["pool-a"].Perm (runFrom tenSeconds releasedCalls 1).epochs.keys
      decide +kernel
    · trivial
  have hentries : (runFrom tenSeconds releasedCalls 2).epochs.entries =
      [⟨"pool-a", ⟨"epoch-a", "mapper-a", .protectedRuntime, 10⟩⟩] := rfl
  have hnone : ∀ i < 3, ¬ (releasedCalls i).LeavesPending (runFrom tenSeconds releasedCalls i) := by
    intro i hi
    interval_cases i
    · exact not_false
    · exact not_false
    · intro h
      obtain ⟨-, k, e, -, he, hphase⟩ := h
      have hmem := AList.mem_lookup_iff.mp he
      rw [hentries, List.mem_singleton] at hmem
      cases hmem
      cases hphase
  have hexact := (summary_exact_iff hrun).mpr hnone
  exact ⟨hexact 1 (by omega) trivial (by decide +kernel),
    hexact 2 (by omega) ⟨_, rfl⟩ (by decide +kernel)⟩

end SharedLvmThin.Guard
