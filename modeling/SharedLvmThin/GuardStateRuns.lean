import SharedLvmThin.GuardStateSteps
import SharedLvmThin.Runs

/-! Runs of the guard state alone: an epoch that stays registered is protected monotonically
and within a bounded time, unless `prepare` presents the registered pair again, which
overwrites the record. -/

namespace SharedLvmThin.Guard
open Perl Runs

variable {Time : Type} [LinearOrder Time] [HAdd Time ℕ Time]

inductive Call (Time : Type)
  | prepare (request : PrepareRequest Time)
  | observe (keys : List String) (sample : Sample Time)
  | release (proof : ReleaseProof)

/-- The state a call leaves behind; a call that dies leaves the state as it was. -/
def Call.next (call : Call Time) (s : GuardState Time) : GuardState Time :=
  match call with
  | .prepare request => match Guard.prepare request s with
    | .ok (s', _) => s'
    | .error _ => s
  | .observe keys sample => (Guard.observe keys sample s).1
  | .release proof => match Guard.release proof s with
    | .ok (s', _) => s'
    | .error _ => s

/-- The visiting order of an observation lists the registered pools. -/
def Call.Fits (call : Call Time) (s : GuardState Time) : Prop :=
  match call with
  | .observe keys _ => keys.Perm s.epochs.keys
  | _ => True

def GuardStep (s : GuardState Time) (call : Call Time) (s' : GuardState Time) : Prop :=
  call.Fits s ∧ s' = call.next s

def Registered (k oe : String) (s : GuardState Time) : Prop :=
  ∃ e, s.epochs.lookup k = some e ∧ e.ownerEpoch = oe

instance (k oe : String) (s : GuardState Time) : Decidable (Registered k oe s) :=
  decidable_of_iff ((s.epochs.lookup k).map (·.ownerEpoch) = some oe) Option.map_eq_some_iff

/-- A `prepare` for a pair that is registered already. -/
def Call.Repeats (call : Call Time) (s : GuardState Time) : Prop :=
  match call with
  | .prepare request => ∃ k oe, request.poolUuid = some k ∧ request.ownerEpoch = some oe ∧
      Registered k oe s
  | _ => False

def Call.ReleasesWithProof (call : Call Time) (k oe : String) : Prop :=
  ∃ proof, call = .release proof ∧ proof.poolUuid.getD "" = k ∧ proof.ownerEpoch.getD "" = oe ∧
    proof.qemuAbsent = some "1" ∧ proof.mapperAbsent = some "1" ∧ proof.ownerReleased = some "1"

/-- The sample has the epoch's own mapper active with its exact QEMU reference. -/
def ShowsAttached (sample : Sample Time) (k : String) (e : Epoch Time) : Prop :=
  ∃ entries pool, sample.pools = .array entries ∧ findPool entries k = some pool ∧
    pool.ownerEpoch.getD "" = e.ownerEpoch ∧ pool.mapperUuid.getD "" = e.mapperUuid ∧
    pool.attached = true

/-- An observation that finds a waiting epoch attached at or after its deadline. -/
def Call.AttachesLate (call : Call Time) (s : GuardState Time) : Prop :=
  match call with
  | .observe _ sample => ∃ k e now, s.epochs.lookup k = some e ∧ e.phase = .pendingAttach ∧
      sample.now = some now ∧ e.deadline ≤ now ∧ ShowsAttached sample k e
  | _ => False

def Fenced (s : GuardState Time) : Prop := s.state = .fencing ∧ s.uncertaintyLatched = true

/-! ## One step -/

variable {s s' : GuardState Time} {call : Call Time} {k : String} {e : Epoch Time}

theorem guardStep_keeps (hstep : GuardStep s call s') (hfresh : ¬ call.Repeats s)
    (he : s.epochs.lookup k = some e) :
    (∃ e', s'.epochs.lookup k = some e' ∧ Evolves e e') ∨
      (s'.epochs.lookup k = none ∧ call.ReleasesWithProof k e.ownerEpoch) := by
  obtain ⟨-, rfl⟩ := hstep
  cases call with
  | prepare request =>
    left
    simp only [Call.next]
    split
    · rename_i s' reply hok
      obtain ⟨-, j, oe, mapper, t, hj, hoe, -, -, hsame, rfl, -⟩ := prepare_eq_ok hok
      have hne : k ≠ j := by
        intro heq
        subst heq
        exact hfresh ⟨k, oe, hj, hoe, e, he, hsame e he⟩
      refine ⟨e, ?_, Or.inl rfl⟩
      rw [AList.lookup_insert_ne hne]
      exact he
    · exact ⟨e, he, Or.inl rfl⟩
  | observe keys sample =>
    left
    simp only [Call.next]
    obtain ⟨hnone, -⟩ | ⟨d, e', hd, he', hevolves⟩ := observe_evolves keys sample s k
    · rw [he] at hnone
      cases hnone
    · obtain rfl : e = d := Option.some.inj (he.symm.trans hd)
      exact ⟨e', he', hevolves⟩
  | release proof =>
    simp only [Call.next]
    split
    · rename_i s' reply hok
      obtain ⟨-, ⟨d, hd, howner⟩, hqemu, hmapper, hreleased, herase, -⟩ := release_eq_ok hok
      rw [herase]
      by_cases hk : k = proof.poolUuid.getD ""
      · subst hk
        obtain rfl : e = d := Option.some.inj (he.symm.trans hd)
        exact Or.inr ⟨AList.lookup_erase _ _,
          proof, rfl, rfl, howner.symm, hqemu, hmapper, hreleased⟩
      · refine Or.inl ⟨e, ?_, Or.inl rfl⟩
        rw [AList.lookup_erase_ne hk]
        exact he
    · exact Or.inl ⟨e, he, Or.inl rfl⟩

/-- An observation without the attached epoch passes only while the epoch still waits. -/
theorem guardStep_fences {keys : List String} {sample : Sample Time}
    (hstep : GuardStep s (.observe keys sample) s') (he : s.epochs.lookup k = some e)
    (hshow : ¬ ShowsAttached sample k e)
    (hdue : e.phase = .protectedRuntime ∨ ∃ now, sample.now = some now ∧ e.deadline ≤ now) :
    Fenced s' := by
  obtain ⟨hfits, rfl⟩ := hstep
  simp only [Call.next]
  obtain ⟨reason, m, -, -, heq⟩ | ⟨-, entries, now, m, b, hpools, hnow, hloop, heq⟩ :=
    observe_cases keys sample s
  · rw [heq]
    exact ⟨rfl, rfl⟩
  · have hfits : keys.Perm s.epochs.keys := hfits
    have hmem : k ∈ keys := by
      rw [hfits.mem_iff]
      exact AList.lookup_isSome.mp (by rw [he]; rfl)
    have hnodup : keys.Nodup := hfits.nodup_iff.mpr s.epochs.keys_nodup
    obtain ⟨e', hcheck⟩ := observeEpochs_visits hnodup hloop k hmem e he
    obtain ⟨-, pool, hpool, howner, hmapper, hatt | ⟨hpending, hdead⟩⟩ := checkEpoch_eq_ok hcheck
    · exact absurd ⟨entries, pool, hpools, hpool, howner, hmapper, hatt⟩ hshow
    · obtain hprot | ⟨u, hu, hle⟩ := hdue
      · rw [hpending] at hprot
        cases hprot
      · obtain rfl : now = u := Option.some.inj (hnow.symm.trans hu)
        exact absurd hle hdead

/-! ## Whole runs -/

variable {σ : ℕ → GuardState Time} {calls : ℕ → Call Time} {n : ℕ}

/-- What the guard owes every epoch along a run. -/
structure ProtectsEpochs (σ : ℕ → GuardState Time) (calls : ℕ → Call Time) (n : ℕ) : Prop where
  monotone : ∀ k oe i j, i ≤ j → j ≤ n → (∀ l, i ≤ l → l ≤ j → Registered k oe (σ l)) →
    ∃ e e', (σ i).epochs.lookup k = some e ∧ (σ j).epochs.lookup k = some e' ∧
      e'.mapperUuid = e.mapperUuid ∧
      (e'.phase = e.phase ∨ (e.phase = .pendingAttach ∧ e'.phase = .protectedRuntime))
  removed : ∀ k oe, ∀ i < n, Registered k oe (σ i) → ¬ Registered k oe (σ (i + 1)) →
    (calls i).ReleasesWithProof k oe
  missing : ∀ k e, ∀ i < n, (σ i).epochs.lookup k = some e → e.phase = .protectedRuntime →
    ∀ keys sample, calls i = .observe keys sample → ¬ ShowsAttached sample k e →
      Fenced (σ (i + 1))
  bounded : ∀ k oe i j request t, i < j → j < n → calls i = .prepare request →
    request.poolUuid = some k → request.ownerEpoch = some oe → request.now = some t →
    ¬ Registered k oe (σ i) → (∀ l, i < l → l ≤ j → Registered k oe (σ l)) →
    ∀ e, (σ j).epochs.lookup k = some e → e.phase = .pendingAttach →
    ∀ keys sample now, calls j = .observe keys sample → sample.now = some now →
      t + (σ i).pendingTimeout ≤ now → Fenced (σ (j + 1))

/-- An epoch that stays registered only ever gets attached. -/
theorem evolves_along (hrun : IsTrace GuardStep σ calls n)
    (hfresh : ∀ i < n, ¬ (calls i).Repeats (σ i)) {oe : String} {i j : ℕ} (hij : i ≤ j)
    (hj : j ≤ n) (hreg : ∀ l, i ≤ l → l ≤ j → Registered k oe (σ l))
    (he : (σ i).epochs.lookup k = some e) :
    ∃ e', (σ j).epochs.lookup k = some e' ∧ Evolves e e' := by
  induction j, hij using Nat.le_induction with
  | base => exact ⟨e, he, Or.inl rfl⟩
  | succ j hij ih =>
    obtain ⟨d, hd, hed⟩ := ih (by omega) fun l hil hlj => hreg l hil (by omega)
    obtain ⟨e', he', hde⟩ | ⟨hnone, -⟩ := guardStep_keeps (hrun j (by omega)) (hfresh j (by omega)) hd
    · exact ⟨e', he', hed.trans hde⟩
    · obtain ⟨e', he', -⟩ := hreg (j + 1) (by omega) (le_refl _)
      rw [hnone] at he'
      cases he'

/-- A `prepare` after which the pair is newly registered has written its deadline. -/
theorem deadline_of_prepare {request : PrepareRequest Time} {oe : String} {t : Time}
    (hstep : GuardStep s (.prepare request) s') (hk : request.poolUuid = some k)
    (ht : request.now = some t) (hnew : ¬ Registered k oe s) (hreg : Registered k oe s') :
    ∃ e, s'.epochs.lookup k = some e ∧ e.deadline = t + s.pendingTimeout := by
  obtain ⟨-, rfl⟩ := hstep
  revert hreg
  simp only [Call.next]
  split
  · rename_i s' reply hok
    intro hreg
    obtain ⟨-, j, oe', mapper, u, hj, -, -, hu, -, rfl, -⟩ := prepare_eq_ok hok
    obtain rfl : k = j := Option.some.inj (hk.symm.trans hj)
    obtain rfl : t = u := Option.some.inj (ht.symm.trans hu)
    exact ⟨_, AList.lookup_insert _, rfl⟩
  · exact fun hreg => absurd hreg hnew

theorem epochs_protected (hrun : IsTrace GuardStep σ calls n)
    (hfresh : ∀ i < n, ¬ (calls i).Repeats (σ i))
    (hlate : ∀ i < n, ¬ (calls i).AttachesLate (σ i)) : ProtectsEpochs σ calls n where
  monotone := by
    intro k oe i j hij hj hreg
    obtain ⟨e, he, -⟩ := hreg i (le_refl i) hij
    obtain ⟨e', he', hevolves⟩ := evolves_along hrun hfresh hij hj hreg he
    refine ⟨e, e', he, he', ?_⟩
    obtain rfl | ⟨hpending, rfl⟩ := hevolves
    · exact ⟨rfl, Or.inl rfl⟩
    · exact ⟨rfl, Or.inr ⟨hpending, rfl⟩⟩
  removed := by
    intro k oe i hi hreg hgone
    obtain ⟨e, he, rfl⟩ := hreg
    obtain ⟨e', he', hevolves⟩ | ⟨-, hrel⟩ := guardStep_keeps (hrun i hi) (hfresh i hi) he
    · refine absurd ⟨e', he', ?_⟩ hgone
      obtain rfl | ⟨-, rfl⟩ := hevolves
      · rfl
      · rfl
    · exact hrel
  missing := by
    intro k e i hi he hprot keys sample hcall hshow
    exact guardStep_fences (hcall ▸ hrun i hi) he hshow (Or.inl hprot)
  bounded := by
    intro k oe i j request t hij hj hprep hk hoe ht hnew hreg e he hpending keys sample now
      hobs hnow hle
    obtain ⟨d, hd, hdeadline⟩ := deadline_of_prepare (hprep ▸ hrun i (by omega)) hk ht hnew
      (hreg (i + 1) (by omega) (by omega))
    obtain ⟨e', he', hevolves⟩ := evolves_along hrun hfresh (by omega : i + 1 ≤ j) (by omega)
      (fun l hil hlj => hreg l (by omega) hlj) hd
    obtain rfl : e = e' := Option.some.inj (he.symm.trans he')
    have hdue : e.deadline ≤ now := by
      obtain rfl | ⟨-, rfl⟩ := hevolves
      · exact hdeadline ▸ hle
      · exact hdeadline ▸ hle
    have hnotlate := hlate j hj
    rw [hobs] at hnotlate
    have hshow : ¬ ShowsAttached sample k e := fun hshow =>
      hnotlate ⟨k, e, now, he, hpending, hnow, hdue, hshow⟩
    exact guardStep_fences (hobs ▸ hrun j hj) he hshow (Or.inr ⟨now, hnow, hdue⟩)

/-! ## Concrete runs -/

def runFrom (s : GuardState Time) (calls : ℕ → Call Time) : ℕ → GuardState Time
  | 0 => s
  | i + 1 => (calls i).next (runFrom s calls i)

def tenSeconds : GuardState ℕ :=
  ⟨.idle, 10, by decide, ∅, false, "no protected Thin epochs"⟩

def admitted : Decision := ⟨true, .admitted, .activateExclusive, ""⟩

def prepareAt (mapper : String) (now : ℕ) : Call ℕ :=
  .prepare ⟨some admitted, some "pool-a", some "epoch-a", some mapper, some now⟩

def sampleAt (mapper : String) (attached : String) (now : ℕ) : Call ℕ :=
  .observe ["pool-a"] ⟨.array [.hash ⟨some "pool-a", some "epoch-a", some mapper,
    some "node-a", some attached, some attached⟩], some now, some "1", some "node-a"⟩

/-- Attached at 5, presented again with another mapper at 8. -/
def repeatedCalls (i : ℕ) : Call ℕ :=
  match i with
  | 0 => prepareAt "mapper-a" 0
  | 1 => sampleAt "mapper-a" "1" 5
  | _ => prepareAt "mapper-b" 8

/-- Due at 10, attached at 30. -/
def lateCalls (i : ℕ) : Call ℕ :=
  match i with
  | 0 => prepareAt "mapper-a" 0
  | _ => sampleAt "mapper-a" "1" 30

/-- Attached at 5, lost at 8. -/
def lostCalls (i : ℕ) : Call ℕ :=
  match i with
  | 0 => prepareAt "mapper-a" 0
  | 1 => sampleAt "mapper-a" "1" 5
  | _ => sampleAt "mapper-a" "0" 8

theorem isTrace_runFrom {s : GuardState Time} (hfits : ∀ i < n, (calls i).Fits (runFrom s calls i)) :
    IsTrace GuardStep (runFrom s calls) calls n :=
  fun i hi => ⟨hfits i hi, rfl⟩

theorem repeated_or_late_not_protected :
    newGuardState (some "10") = .ok tenSeconds ∧
    (IsTrace GuardStep (runFrom tenSeconds repeatedCalls) repeatedCalls 3 ∧
      ¬ ProtectsEpochs (runFrom tenSeconds repeatedCalls) repeatedCalls 3) ∧
    (IsTrace GuardStep (runFrom tenSeconds lateCalls) lateCalls 2 ∧
      ¬ ProtectsEpochs (runFrom tenSeconds lateCalls) lateCalls 2) := by
  refine ⟨rfl, ⟨isTrace_runFrom ?_, ?_⟩, isTrace_runFrom ?_, ?_⟩
  · intro i hi
    interval_cases i
    · trivial
    · change ["pool-a"].Perm (runFrom tenSeconds repeatedCalls 1).epochs.keys
      decide +kernel
    · trivial
  · intro h
    obtain ⟨e, e', he, he', hmapper, -⟩ := h.monotone "pool-a" "epoch-a" 2 3 (by omega) (by omega) (by
      intro l h2 h3
      interval_cases l
      · decide +kernel
      · decide +kernel)
    have hbefore : ((runFrom tenSeconds repeatedCalls 2).epochs.lookup "pool-a").map
        (·.mapperUuid) = some "mapper-a" := by decide +kernel
    have hafter : ((runFrom tenSeconds repeatedCalls 3).epochs.lookup "pool-a").map
        (·.mapperUuid) = some "mapper-b" := by decide +kernel
    rw [he] at hbefore
    rw [he'] at hafter
    simp only [Option.map_some, Option.some.injEq] at hbefore hafter
    rw [hbefore, hafter] at hmapper
    exact absurd hmapper (by decide)
  · intro i hi
    interval_cases i
    · trivial
    · change ["pool-a"].Perm (runFrom tenSeconds lateCalls 1).epochs.keys
      decide +kernel
  · intro h
    have hfenced := h.bounded "pool-a" "epoch-a" 0 1 _ 0 (by omega) (by omega) rfl rfl rfl rfl
      (by decide +kernel)
      (by
        intro l h0 h1
        interval_cases l
        decide +kernel)
      ⟨"epoch-a", "mapper-a", .pendingAttach, 10⟩ rfl rfl _ _ 30 rfl rfl (by decide)
    exact absurd hfenced.2 (by decide +kernel)

theorem lostCalls_entries :
    (runFrom tenSeconds lostCalls 1).epochs.entries =
      [⟨"pool-a", ⟨"epoch-a", "mapper-a", .pendingAttach, 10⟩⟩] ∧
    (runFrom tenSeconds lostCalls 2).epochs.entries =
      [⟨"pool-a", ⟨"epoch-a", "mapper-a", .protectedRuntime, 10⟩⟩] := by
  exact ⟨rfl, rfl⟩

theorem lostCalls_protected :
    ProtectsEpochs (runFrom tenSeconds lostCalls) lostCalls 3 ∧
      Fenced (runFrom tenSeconds lostCalls 3) := by
  have hrun : IsTrace GuardStep (runFrom tenSeconds lostCalls) lostCalls 3 := by
    apply isTrace_runFrom
    intro i hi
    interval_cases i
    · trivial
    · change ["pool-a"].Perm (runFrom tenSeconds lostCalls 1).epochs.keys
      decide +kernel
    · change ["pool-a"].Perm (runFrom tenSeconds lostCalls 2).epochs.keys
      decide +kernel
  have hfresh : ∀ i < 3, ¬ (lostCalls i).Repeats (runFrom tenSeconds lostCalls i) := by
    intro i hi
    interval_cases i
    · intro h
      obtain ⟨k, oe, -, -, e, he, -⟩ := h
      cases he
    · exact not_false
    · exact not_false
  have hlate : ∀ i < 3, ¬ (lostCalls i).AttachesLate (runFrom tenSeconds lostCalls i) := by
    intro i hi
    interval_cases i
    · exact not_false
    · intro h
      obtain ⟨k, e, now, he, -, hnow, hdue, -⟩ := h
      have hmem := AList.mem_lookup_iff.mp he
      rw [lostCalls_entries.1, List.mem_singleton] at hmem
      cases hmem
      cases hnow
      exact absurd hdue (by decide)
    · intro h
      obtain ⟨k, e, now, he, hpending, -⟩ := h
      have hmem := AList.mem_lookup_iff.mp he
      rw [lostCalls_entries.2, List.mem_singleton] at hmem
      cases hmem
      cases hpending
  have hprot := epochs_protected hrun hfresh hlate
  refine ⟨hprot, hprot.missing "pool-a" ⟨"epoch-a", "mapper-a", .protectedRuntime, 10⟩ 2 (by omega)
    rfl rfl _ _ rfl ?_⟩
  intro h
  obtain ⟨entries, pool, hentries, hpool, -, -, hatt⟩ := h
  cases hentries
  cases hpool
  exact absurd hatt (by decide)

end SharedLvmThin.Guard
