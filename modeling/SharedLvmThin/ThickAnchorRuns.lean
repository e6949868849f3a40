import SharedLvmThin.Runs
import SharedLvmThin.ThickAnchorSteps

/-!
# Anchor runs

What holds along every run of accepted anchor steps: HEAD and generation of a
version 5 anchor move only at commits, and ownership of a version 6 anchor is
numbered by its publication.
-/

namespace SharedLvmThin.Thick
open Perl TagCodec Runs

/-! ## Version 5 -/

/-- A step of a version 5 anchor: an accepted transition or a rebase. -/
def StepV5 (before after : Record) : Prop :=
  (versionOf before = "5" ∧ validateAnchorTransition before after = .ok ()) ∨
    ∃ tx, materializedRebaseState before tx = .ok after

def IsCommit (before after : Record) : Prop :=
  phaseOfV5 before = some .sourceReady ∧ phaseOfV5 after = some .committed

instance (before after : Record) : Decidable (IsCommit before after) := by
  unfold IsCommit
  infer_instance

/-- What a version 5 step does to the fields a run is judged by. -/
inductive EffectV5 (before after : Record) : Prop
  | same (hkeep : Keeps anchorFieldsV5 before after)
  | move (p q : PhaseV5) (hfrom : phaseOfV5 before = some p) (hto : phaseOfV5 after = some q)
      (hpq : allowedTransition p q = true) (hkeep : Keeps [.v, .sid, .vol] before after)
      (hmove : EagerMove p q before after)
  | rebase (hfrom : phaseOfV5 before = some .materialized)
      (hkeep : Keeps [.v, .sid, .vol, .phase, .head, .generation] before after)

section
variable {before after : Record}

theorem stepV5_accepted (h : StepV5 before after) :
    Accepted after ∧ versionOf after = "5" := by
  rcases h with ⟨hv, hval⟩ | ⟨tx, hreb⟩
  · obtain ⟨hb, ha, ht, -⟩ := (validate_eager_iff hv).mp hval
    refine ⟨ha, ?_⟩
    rw [versionOf, version_eq_of_text hb ha ht]
    exact hv
  · obtain ⟨hb, hv, -, -, -, ha, rfl⟩ := materializedRebaseState_eq_ok.mp hreb
    refine ⟨ha, ?_⟩
    simpa [versionOf, rebased] using hv

theorem stepV5_effect (h : StepV5 before after) : EffectV5 before after := by
  rcases h with ⟨hv, hval⟩ | ⟨tx, hreb⟩
  · obtain ⟨-, -, -, ⟨-, hkeep⟩ | ⟨p, q, hp, hq, hpq, hkeep, hmove⟩⟩ :=
      (validate_eager_iff hv).mp hval
    · exact .same hkeep
    · exact .move p q (phaseOfV5_of_uc hp) (phaseOfV5_of_uc hq) hpq hkeep hmove
  · obtain ⟨-, -, hphase, -, -, -, rfl⟩ := materializedRebaseState_eq_ok.mp hreb
    refine .rebase (phaseOfV5_of_uc (by rw [hphase]; decide)) ?_
    intro f hf
    simp only [List.mem_cons, List.not_mem_nil, or_false] at hf
    rcases hf with rfl | rfl | rfl | rfl | rfl | rfl <;> simp [rebased]

theorem phaseOfV5_congr (h : text after .phase = text before .phase) :
    phaseOfV5 after = phaseOfV5 before := by
  rw [phaseOfV5, phaseOfV5, h]

theorem numberOf_congr {f : Field} (h : text after f = text before f) :
    numberOf after f = numberOf before f := by
  rw [numberOf, numberOf, h]

theorem not_isCommit_of_phase (h : text after .phase = text before .phase) :
    ¬ IsCommit before after := by
  rintro ⟨hb, ha⟩
  rw [phaseOfV5_congr h, hb] at ha
  exact absurd ha (by decide)

theorem EffectV5.identity (h : EffectV5 before after) : Keeps [.v, .sid, .vol] before after := by
  cases h with
  | same hkeep => exact fun f hf => hkeep f (by revert hf; cases f <;> decide)
  | move p q hfrom hto hpq hkeep hmove => exact hkeep
  | rebase hfrom hkeep => exact fun f hf => hkeep f (by revert hf; cases f <;> decide)

/-- HEAD and generation move together, and only at a commit. -/
theorem EffectV5.authority (h : EffectV5 before after) :
    (¬ IsCommit before after ∧ text after .head = text before .head ∧
      numberOf after .generation = numberOf before .generation) ∨
    (IsCommit before after ∧ text before .head = text before .old ∧
      text after .head = text before .new ∧
      numberOf after .generation = numberOf before .generation + 1) := by
  cases h with
  | same hkeep =>
    exact Or.inl ⟨not_isCommit_of_phase (hkeep _ (by decide)), hkeep _ (by decide),
      numberOf_congr (hkeep _ (by decide))⟩
  | rebase hfrom hkeep =>
    exact Or.inl ⟨not_isCommit_of_phase (hkeep _ (by decide)), hkeep _ (by decide),
      numberOf_congr (hkeep _ (by decide))⟩
  | move p q hfrom hto hpq hkeep hmove =>
    have hcommit : IsCommit before after ↔ p = .sourceReady ∧ q = .committed := by
      simp [IsCommit, hfrom, hto]
    rw [hcommit]
    cases p <;> cases q <;> first
      | exact absurd hpq (by decide)
      | skip
    case sourceReady.committed =>
      obtain ⟨htx, hb, ha, hgen⟩ := hmove
      exact Or.inr ⟨⟨rfl, rfl⟩, hb, ha.trans (htx .new (by decide)), hgen⟩
    case materialized.prepared => exact Or.inl ⟨by decide, hmove.2.2.1, hmove.2.2.2.2⟩
    case prepared.materialized =>
      exact Or.inl ⟨by decide, hmove.2.2.2.2.2.1, hmove.2.2.2.2.2.2⟩
    all_goals exact Or.inl ⟨by decide, hmove.2.1, hmove.2.2⟩

theorem EffectV5.transaction (h : EffectV5 before after)
    (hphase : phaseOfV5 before ≠ some .materialized) : Keeps transactionFields before after := by
  cases h with
  | same hkeep => exact fun f hf => hkeep f (by revert hf; cases f <;> decide)
  | rebase hfrom hkeep => exact absurd hfrom hphase
  | move p q hfrom hto hpq hkeep hmove =>
    have hp : p ≠ .materialized := fun h => hphase (h ▸ hfrom)
    cases p <;> cases q <;> first
      | exact absurd hpq (by decide)
      | exact absurd rfl hp
      | exact hmove.1

end

theorem Keeps.trans {fields : List Field} {a b c : Record} (h : Keeps fields a b)
    (k : Keeps fields b c) : Keeps fields a c :=
  fun f hf => (k f hf).trans (h f hf)

theorem Keeps.refl (fields : List Field) (a : Record) : Keeps fields a a := fun _ _ => rfl

/-- Fields that every step of a segment keeps are the same at both ends. -/
theorem keeps_on {fields : List Field} {σ : ℕ → Record} {i j : ℕ} (hij : i ≤ j)
    (hstep : ∀ k, i ≤ k → k < j → Keeps fields (σ k) (σ (k + 1))) : Keeps fields (σ i) (σ j) :=
  fun f hf => constant_on (fun r => text r f) hij fun k hik hkj => hstep k hik hkj f hf

/-- Along every run of version 5 steps from an accepted anchor, whatever its phase and
operation: the identity never changes, HEAD and generation move exactly at commits, and a
transaction keeps its fields until it is materialized. -/
theorem eager_anchor_run {σ : ℕ → Record} {n : ℕ} (hrun : IsRun StepV5 σ n)
    (h0 : Accepted (σ 0)) :
    (∀ i ≤ n, Accepted (σ i) ∧ Keeps [.v, .sid, .vol] (σ 0) (σ i)) ∧
    (∀ i < n, text (σ (i + 1)) .head ≠ text (σ i) .head → IsCommit (σ i) (σ (i + 1))) ∧
    (∀ i < n, IsCommit (σ i) (σ (i + 1)) →
      text (σ i) .head = text (σ i) .old ∧ text (σ (i + 1)) .head = text (σ i) .new) ∧
    (∀ i < n, numberOf (σ (i + 1)) .generation =
      numberOf (σ i) .generation + if IsCommit (σ i) (σ (i + 1)) then 1 else 0) ∧
    (∀ i ≤ n, numberOf (σ i) .generation =
      numberOf (σ 0) .generation + Nat.count (fun k => IsCommit (σ k) (σ (k + 1))) i) ∧
    (∀ i j, i ≤ j → j ≤ n →
      (∀ k, i ≤ k → k < j → phaseOfV5 (σ k) ≠ some .materialized) →
      Keeps transactionFields (σ i) (σ j)) := by
  have heff : ∀ i < n, EffectV5 (σ i) (σ (i + 1)) := fun i hi => stepV5_effect (hrun i hi)
  have hgen : ∀ i < n, numberOf (σ (i + 1)) .generation =
      numberOf (σ i) .generation + if IsCommit (σ i) (σ (i + 1)) then 1 else 0 := by
    intro i hi
    rcases (heff i hi).authority with ⟨hc, -, hg⟩ | ⟨hc, -, -, hg⟩
    · rw [if_neg hc, hg, Nat.add_zero]
    · rw [if_pos hc, hg]
  refine ⟨fun i hi => ⟨?_, ?_⟩, fun i hi hne => ?_, fun i hi hc => ?_, hgen,
    counts (fun r => numberOf r .generation) _ hgen, fun i j hij hj hmat => ?_⟩
  · exact hrun.invariant h0 (fun a b hab _ => (stepV5_accepted hab).1) i hi
  · exact keeps_on (Nat.zero_le i) fun k _ hk => (heff k (by omega)).identity
  · rcases (heff i hi).authority with ⟨-, hh, -⟩ | ⟨hc, -⟩
    · exact absurd hh hne
    · exact hc
  · rcases (heff i hi).authority with ⟨hn, -⟩ | ⟨-, hb, ha, -⟩
    · exact absurd hc hn
    · exact ⟨hb, ha⟩
  · exact keeps_on hij fun k hik hkj => (heff k (by omega)).transaction (hmat k hik hkj)

/-- An allocation that is materialized and then snapshotted up to its commit. -/
def snapshotRun : ℕ → Record
  | 0 => allocated "PREPARED"
  | 1 => allocated "MATERIALIZED"
  | 2 => snapshotted "PREPARED" "gen0" "0"
  | 3 => snapshotted "SOURCE_READY" "gen0" "0"
  | _ => snapshotted "COMMITTED" "gen1" "1"
where
  allocated (phase : String) : Record := hashOf
    [(.v, "5"), (.sid, "store"), (.vol, "vm-100-disk-0"), (.phase, phase),
      (.tx, "00000000000000000000000000000001"), (.op, "ALLOC"), (.snapshot, "none"),
      (.source, "gen0"), (.old, "gen0"), (.new, "gen0"), (.head, "gen0"), (.generation, "0"),
      (.region, "8")]
  snapshotted (phase head generation : String) : Record := hashOf
    [(.v, "5"), (.sid, "store"), (.vol, "vm-100-disk-0"), (.phase, phase),
      (.tx, "00000000000000000000000000000002"), (.op, "SNAPSHOT"), (.snapshot, "before"),
      (.source, "gen0"), (.old, "gen0"), (.new, "gen1"), (.head, head),
      (.generation, generation), (.region, "8")]

theorem snapshotRun_values : ∀ i ≤ 4, (anchorValues (snapshotRun i)).isOk = true := by
  intro i hi
  interval_cases i <;> decide +kernel

theorem snapshotRun_isRun : IsRun StepV5 snapshotRun 4 := by
  intro i hi
  have hb := snapshotRun_values i (by omega)
  have ha := snapshotRun_values (i + 1) (by omega)
  interval_cases i <;> exact Or.inl ⟨by decide, validate_of_values hb ha (by decide) (by decide)⟩

theorem eager_anchor_run_snapshot :
    Keeps [.v, .sid, .vol] (snapshotRun 0) (snapshotRun 4) ∧
    text (snapshotRun 3) .head = text (snapshotRun 3) .old ∧
    text (snapshotRun 4) .head = text (snapshotRun 3) .new ∧
    numberOf (snapshotRun 4) .generation = numberOf (snapshotRun 0) .generation + 1 := by
  obtain ⟨hid, -, hcommit, -, hcount, -⟩ := eager_anchor_run snapshotRun_isRun
    (accepted_of_values (snapshotRun_values 0 (by decide)))
  have hc := hcommit 3 (by decide) (by decide)
  refine ⟨(hid 4 le_rfl).2, hc.1, hc.2, ?_⟩
  rw [hcount 4 le_rfl]
  decide

/-! ## Version 6 -/

def StepV6 (before after : Record) : Prop :=
  versionOf before = "6" ∧ validateAnchorTransition before after = .ok ()

def IsClaim (before after : Record) : Prop :=
  phaseOfV6 before = some .lazyDormant ∧ phaseOfV6 after = some .lazyClaimed

instance (before after : Record) : Decidable (IsClaim before after) := by
  unfold IsClaim
  infer_instance

def IsOwned (h : Record) : Prop := ∃ p, phaseOfV6 h = some p ∧ p.owned = true

/-- What a version 6 step does to the fields a run is judged by. -/
inductive EffectV6 (before after : Record) : Prop
  | same (hkeep : Keeps anchorFieldsV6 before after)
  | move (p q : PhaseV6) (hfrom : phaseOfV6 before = some p) (hto : phaseOfV6 after = some q)
      (hpq : allowedLazyTransition p q = true) (hkeep : Keeps lazyImmutableFields before after)
      (hmove : LazyMove p q before after)

section
variable {before after : Record}

theorem stepV6_accepted (h : StepV6 before after) : Accepted after ∧ versionOf after = "6" := by
  obtain ⟨hb, ha, ht, -⟩ := (validate_lazy_iff h.1).mp h.2
  refine ⟨ha, ?_⟩
  rw [versionOf, version_eq_of_text hb ha ht]
  exact h.1

theorem stepV6_effect (h : StepV6 before after) : EffectV6 before after := by
  obtain ⟨-, -, -, hkeep | ⟨p, q, hp, hq, hpq, hkeep, hmove⟩⟩ := (validate_lazy_iff h.1).mp h.2
  · exact .same hkeep
  · exact .move p q (phaseOfV6_of_text hp) (phaseOfV6_of_text hq) hpq hkeep hmove

theorem phaseOfV6_congr (h : text after .phase = text before .phase) :
    phaseOfV6 after = phaseOfV6 before := by
  rw [phaseOfV6, phaseOfV6, h]

theorem EffectV6.immutable (h : EffectV6 before after) :
    Keeps lazyImmutableFields before after := by
  cases h with
  | same hkeep => exact fun f hf => hkeep f (by revert hf; cases f <;> decide)
  | move p q hfrom hto hpq hkeep hmove => exact hkeep

theorem EffectV6.phase (h : EffectV6 before after) :
    phaseOfV6 after = phaseOfV6 before ∨
      ∃ p q, phaseOfV6 before = some p ∧ phaseOfV6 after = some q ∧
        allowedLazyTransition p q = true := by
  cases h with
  | same hkeep => exact Or.inl (phaseOfV6_congr (hkeep .phase (by decide)))
  | move p q hfrom hto hpq hkeep hmove => exact Or.inr ⟨p, q, hfrom, hto, hpq⟩

/-- The publication is set once, on leaving `LAZY_PREPARED`, and then counts the claims. -/
theorem EffectV6.publication (h : EffectV6 before after) :
    (phaseOfV6 before = some .lazyPrepared ∧ phaseOfV6 after = some .lazyDormant ∧
      numberOf before .publication = 0 ∧ numberOf after .publication = 1) ∨
    ((phaseOfV6 after = some .lazyPrepared ↔ phaseOfV6 before = some .lazyPrepared) ∧
      numberOf after .publication =
        numberOf before .publication + if IsClaim before after then 1 else 0) := by
  cases h with
  | same hkeep =>
    have hphase := phaseOfV6_congr (hkeep .phase (by decide))
    have hclaim : ¬ IsClaim before after := by
      rintro ⟨hb, ha⟩
      rw [hphase, hb] at ha
      exact absurd ha (by decide)
    refine Or.inr ⟨by rw [hphase], ?_⟩
    rw [if_neg hclaim, numberOf_congr (hkeep .publication (by decide)), Nat.add_zero]
  | move p q hfrom hto hpq hkeep hmove =>
    simp only [IsClaim, hfrom, hto, Option.some.injEq]
    cases p <;> cases q <;> first
      | exact absurd hpq (by decide)
      | exact Or.inl ⟨rfl, rfl, hmove.1, hmove.2.1⟩
      | exact Or.inr ⟨by decide, hmove.1⟩

/-- The owner changes only where ownership begins or ends. -/
theorem EffectV6.owner (h : EffectV6 before after) (hb : IsOwned before) (ha : IsOwned after) :
    Keeps ownerFields before after := by
  cases h with
  | same hkeep => exact fun f hf => hkeep f (by revert hf; cases f <;> decide)
  | move p q hfrom hto hpq hkeep hmove =>
    obtain ⟨p', hp', hop⟩ := hb
    obtain ⟨q', hq', hoq⟩ := ha
    obtain rfl : p = p' := Option.some.inj (hfrom.symm.trans hp')
    obtain rfl : q = q' := Option.some.inj (hto.symm.trans hq')
    cases p <;> cases q <;> first
      | exact absurd hpq (by decide)
      | exact absurd hop (by decide)
      | exact absurd hoq (by decide)
      | exact hmove.2

theorem EffectV6.claim (h : EffectV6 before after) (hb : ¬ IsOwned before) (ha : IsOwned after) :
    IsClaim before after := by
  obtain ⟨q, hq, hoq⟩ := ha
  rcases h.phase with hsame | ⟨p, q', hfrom, hto, hpq⟩
  · exact absurd ⟨q, hsame ▸ hq, hoq⟩ hb
  · obtain rfl : q' = q := Option.some.inj (hto.symm.trans hq)
    have hop : p.owned ≠ true := fun hp => hb ⟨p, hfrom, hp⟩
    rw [IsClaim, hfrom, hto]
    cases p <;> cases q' <;> first
      | exact absurd hpq (by decide)
      | exact absurd hoq (by decide)
      | exact absurd rfl hop
      | exact ⟨rfl, rfl⟩

theorem EffectV6.materialized (h : EffectV6 before after)
    (hb : phaseOfV6 before = some .materialized) : phaseOfV6 after = some .materialized := by
  rcases h.phase with hsame | ⟨p, q, hfrom, -, hpq⟩
  · rw [hsame, hb]
  · obtain rfl : p = .materialized := Option.some.inj (hfrom.symm.trans hb)
    cases q <;> exact absurd hpq (by decide)

end

section
variable {h : Record}

theorem publication_zero_iff (ha : Accepted h) (hv : versionOf h = "6") :
    numberOf h .publication = 0 ↔ phaseOfV6 h = some .lazyPrepared := by
  obtain ⟨p, hp⟩ := (accepted_iff_lazy hv).mp ha
  rw [hp.phaseRead, Option.some.injEq, hp.published]

/-- The owner is absent exactly in the three unowned phases. -/
theorem owner_none_iff (ha : Accepted h) (hv : versionOf h = "6") :
    (∀ f ∈ ownerFields, text h f = "none") ↔
      phaseOfV6 h ∈ [some .lazyPrepared, some .lazyDormant, some .materialized] := by
  obtain ⟨p, hp⟩ := (accepted_iff_lazy hv).mp ha
  have howner := hp.owner
  simp only [OwnerOk] at howner
  simp only [hp.phaseRead, ownerFields, List.mem_cons, List.not_mem_nil, or_false,
    forall_eq_or_imp, forall_eq, Option.some.injEq]
  cases p <;> simp_all [PhaseV6.owned]

theorem isOwned_iff (ha : Accepted h) (hv : versionOf h = "6") :
    IsOwned h ↔ phaseOfV6 h ∉ [some .lazyPrepared, some .lazyDormant, some .materialized] := by
  obtain ⟨p, hp⟩ := (accepted_iff_lazy hv).mp ha
  simp only [IsOwned, hp.phaseRead, Option.some.injEq, exists_eq_left']
  cases p <;> decide

end

section
variable {σ : ℕ → Record} {n : ℕ}

/-- A claim separates an unowned state from a later owned one. -/
theorem publication_lt_of_unowned (heff : ∀ i < n, EffectV6 (σ i) (σ (i + 1)))
    {k j : ℕ} (hkj : k ≤ j) (hj : j ≤ n) (hk : ¬ IsOwned (σ k)) :
    numberOf (σ k) .publication ≤ numberOf (σ j) .publication ∧
      (IsOwned (σ j) → numberOf (σ k) .publication < numberOf (σ j) .publication) := by
  induction j, hkj using Nat.le_induction with
  | base => exact ⟨le_rfl, fun h => absurd h hk⟩
  | succ j hkj ih =>
    obtain ⟨hle, hlt⟩ := ih (by omega)
    rcases (heff j (by omega)).publication with ⟨-, hdormant, hz, ho⟩ | ⟨-, hpub⟩
    · refine ⟨by omega, fun howned => ?_⟩
      obtain ⟨q, hq, hoq⟩ := howned
      obtain rfl : PhaseV6.lazyDormant = q := Option.some.inj (hdormant.symm.trans hq)
      exact absurd hoq (by decide)
    · refine ⟨by omega, fun howned => ?_⟩
      by_cases hj' : IsOwned (σ j)
      · have := hlt hj'
        omega
      · rw [if_pos ((heff j (by omega)).claim hj' howned)] at hpub
        omega

theorem publication_mono (heff : ∀ i < n, EffectV6 (σ i) (σ (i + 1))) {i j : ℕ}
    (hij : i ≤ j) (hj : j ≤ n) :
    numberOf (σ i) .publication ≤ numberOf (σ j) .publication := by
  induction j, hij using Nat.le_induction with
  | base => exact le_rfl
  | succ j hij ih =>
    have hle := ih (by omega)
    rcases (heff j (by omega)).publication with ⟨-, -, hz, ho⟩ | ⟨-, hpub⟩ <;> omega

/-- Outside `LAZY_PREPARED` the publication is one more than the number of claims. -/
theorem publication_counts (heff : ∀ i < n, EffectV6 (σ i) (σ (i + 1)))
    (hphase : phaseOfV6 (σ 0) = some .lazyPrepared) :
    ∀ i ≤ n,
      (phaseOfV6 (σ i) = some .lazyPrepared ∧
        Nat.count (fun k => IsClaim (σ k) (σ (k + 1))) i = 0) ∨
      (phaseOfV6 (σ i) ≠ some .lazyPrepared ∧ numberOf (σ i) .publication =
        1 + Nat.count (fun k => IsClaim (σ k) (σ (k + 1))) i) := by
  intro i
  induction i with
  | zero => exact fun _ => Or.inl ⟨hphase, by simp⟩
  | succ i ih =>
    intro hi
    rw [Nat.count_succ]
    rcases (heff i (by omega)).publication with ⟨hb, ha, -, ho⟩ | ⟨hiff, hpub⟩
    · have hclaim : ¬ IsClaim (σ i) (σ (i + 1)) := fun hc => by
        rw [hc.1] at hb
        exact absurd hb (by decide)
      rcases ih (by omega) with ⟨-, hcount⟩ | ⟨hne, -⟩
      · rw [if_neg hclaim, ha, ho, hcount]
        exact Or.inr ⟨by decide, rfl⟩
      · exact absurd hb hne
    · rcases ih (by omega) with ⟨hp, hcount⟩ | ⟨hne, hcount⟩
      · have hclaim : ¬ IsClaim (σ i) (σ (i + 1)) := fun hc => by
          rw [hc.1] at hp
          exact absurd hp (by decide)
        exact Or.inl ⟨hiff.mpr hp, by rw [if_neg hclaim, hcount]⟩
      · exact Or.inr ⟨fun ha => hne (hiff.mp ha), by rw [hpub, hcount]; omega⟩

end

/-- Along every run of a version 6 anchor from `LAZY_PREPARED`: the allocation never
changes, the publication numbers the claims, the owner is present exactly in the owned
phases and is fixed within one period of ownership, two periods have different
publications, and `MATERIALIZED` is final. -/
theorem lazy_anchor_run {σ : ℕ → Record} {n : ℕ} (hrun : IsRun StepV6 σ n)
    (h0 : Accepted (σ 0)) (hv : versionOf (σ 0) = "6")
    (hphase : phaseOfV6 (σ 0) = some .lazyPrepared) :
    (∀ i ≤ n, Keeps lazyImmutableFields (σ 0) (σ i)) ∧
    (∀ i ≤ n, numberOf (σ i) .publication = 0 ↔ phaseOfV6 (σ i) = some .lazyPrepared) ∧
    (∀ i ≤ n, phaseOfV6 (σ i) ≠ some .lazyPrepared → numberOf (σ i) .publication =
      1 + Nat.count (fun k => IsClaim (σ k) (σ (k + 1))) i) ∧
    (∀ i ≤ n, (∀ f ∈ ownerFields, text (σ i) f = "none") ↔
      phaseOfV6 (σ i) ∈ [some .lazyPrepared, some .lazyDormant, some .materialized]) ∧
    (∀ i j, i < j → j ≤ n → IsClaim (σ i) (σ (i + 1)) →
      (∀ k, i < k → k ≤ j → phaseOfV6 (σ k) ∉ [some .lazyDormant, some .materialized]) →
      Keeps ownerFields (σ (i + 1)) (σ j)) ∧
    (∀ i j, i ≤ j → j ≤ n → IsOwned (σ i) → IsOwned (σ j) →
      numberOf (σ i) .publication = numberOf (σ j) .publication →
      ∀ k, i ≤ k → k ≤ j → IsOwned (σ k) ∧ Keeps ownerFields (σ i) (σ k)) ∧
    (∀ i j, i ≤ j → j ≤ n → phaseOfV6 (σ i) = some .materialized →
      phaseOfV6 (σ j) = some .materialized) := by
  have heff : ∀ i < n, EffectV6 (σ i) (σ (i + 1)) := fun i hi => stepV6_effect (hrun i hi)
  have hacc : ∀ i ≤ n, Accepted (σ i) ∧ versionOf (σ i) = "6" :=
    hrun.invariant ⟨h0, hv⟩ fun a b hab _ => stepV6_accepted hab
  have howner : ∀ i j, i ≤ j → j ≤ n → (∀ k, i ≤ k → k ≤ j → IsOwned (σ k)) →
      Keeps ownerFields (σ i) (σ j) := by
    intro i j hij hj howned
    exact keeps_on hij fun k hik hkj => (heff k (by omega)).owner (howned k hik (by omega))
      (howned (k + 1) (by omega) (by omega))
  refine ⟨fun i hi => ?_, fun i hi => ?_, fun i hi hne => ?_, fun i hi => ?_,
    fun i j hij hj hclaim hseg => ?_, fun i j hij hj hi' hj' hpub k hik hkj => ?_,
    fun i j hij hj hm => ?_⟩
  · exact keeps_on (Nat.zero_le i) fun k _ hk => (heff k (by omega)).immutable
  · exact publication_zero_iff (hacc i hi).1 (hacc i hi).2
  · rcases publication_counts heff hphase i hi with ⟨hp, -⟩ | ⟨-, hcount⟩
    · exact absurd hp hne
    · exact hcount
  · exact owner_none_iff (hacc i hi).1 (hacc i hi).2
  · refine howner (i + 1) j hij hj fun k hik hkj => ?_
    -- a claimed anchor has been published, so it never looks prepared again
    have hone : numberOf (σ (i + 1)) .publication ≠ 0 := by
      rw [ne_eq, publication_zero_iff (hacc _ (by omega)).1 (hacc _ (by omega)).2, hclaim.2]
      decide
    have hpos : phaseOfV6 (σ k) ≠ some .lazyPrepared := by
      rw [ne_eq, ← publication_zero_iff (hacc _ (by omega)).1 (hacc _ (by omega)).2]
      have := publication_mono heff hik (by omega)
      omega
    rw [isOwned_iff (hacc _ (by omega)).1 (hacc _ (by omega)).2, List.mem_cons, not_or]
    exact ⟨hpos, hseg k (by omega) hkj⟩
  · have hall : ∀ m, i ≤ m → m ≤ j → IsOwned (σ m) := by
      intro m him hmj
      by_contra hm
      have hlt := (publication_lt_of_unowned heff hmj hj hm).2 hj'
      have hle := publication_mono heff him (by omega)
      omega
    exact ⟨hall k hik hkj, howner i k hik (by omega) fun m him hmk => hall m him (by omega)⟩
  · induction j, hij using Nat.le_induction with
    | base => exact hm
    | succ j hij ih => exact (heff j (by omega)).materialized (ih (by omega))

/-- A lazily allocated volume that is released by one node and claimed by another. -/
def reclaimRun : ℕ → Record
  | 0 => lazyAnchor "LAZY_PREPARED" "0" "none" "none" "none"
  | 1 => lazyAnchor "LAZY_DORMANT" "1" "none" "none" "none"
  | 2 => lazyAnchor "LAZY_CLAIMED" "2" "node1" firstBoot firstEpoch
  | 3 => lazyAnchor "LAZY_ACTIVE" "2" "node1" firstBoot firstEpoch
  | 4 => lazyAnchor "LAZY_DORMANT" "2" "none" "none" "none"
  | _ => lazyAnchor "LAZY_CLAIMED" "3" "node2" secondBoot secondEpoch
where
  firstBoot : String := "00000000-0000-4000-8000-000000000001"
  secondBoot : String := "00000000-0000-4000-8000-000000000002"
  firstEpoch : String := "0000000000000000000000000000000a"
  secondEpoch : String := "0000000000000000000000000000000b"
  lazyAnchor (phase publication node boot epoch : String) : Record := hashOf
    [(.v, "6"), (.sid, "store"), (.vol, "vm-100-disk-0"), (.phase, phase),
      (.tx, "00000000000000000000000000000001"), (.op, "ALLOC"), (.snapshot, "none"),
      (.source, "gen0"), (.old, "gen0"), (.new, "gen0"), (.head, "gen0"), (.generation, "0"),
      (.region, "8"), (.policy, "lazy-zero"), (.bytes, "1048576"), (.metadata, "meta0"),
      (.dataUuid, "data-uuid"), (.metadataUuid, "metadata-uuid"), (.zeroSource, "dm-zero"),
      (.publication, publication), (.ownerNode, node), (.ownerBoot, boot), (.ownerEpoch, epoch)]

theorem reclaimRun_values : ∀ i ≤ 5, (anchorValues (reclaimRun i)).isOk = true := by
  intro i hi
  interval_cases i <;> decide +kernel

theorem reclaimRun_isRun : IsRun StepV6 reclaimRun 5 := by
  intro i hi
  have hb := reclaimRun_values i (by omega)
  have ha := reclaimRun_values (i + 1) (by omega)
  interval_cases i <;> exact ⟨by decide, validate_of_values hb ha (by decide) (by decide)⟩

theorem lazy_anchor_run_reclaim :
    Keeps lazyImmutableFields (reclaimRun 0) (reclaimRun 5) ∧
    numberOf (reclaimRun 5) .publication =
      1 + Nat.count (fun k => IsClaim (reclaimRun k) (reclaimRun (k + 1))) 5 ∧
    Keeps ownerFields (reclaimRun 2) (reclaimRun 3) := by
  obtain ⟨hkeep, -, hpub, -, howner, -⟩ := lazy_anchor_run reclaimRun_isRun
    (accepted_of_values (reclaimRun_values 0 (by decide))) (by decide) (by decide)
  refine ⟨hkeep 5 le_rfl, hpub 5 le_rfl (by decide), howner 1 3 (by decide) (by decide)
    (by decide) ?_⟩
  intro k hk hk'
  interval_cases k <;> decide

end SharedLvmThin.Thick
