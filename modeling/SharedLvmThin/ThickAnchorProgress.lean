import SharedLvmThin.ThickAnchorRuns

/-!
# Progress of anchors

Which anchors can still be driven to `MATERIALIZED` by accepted steps. A version 5
allocation that was advanced to `SOURCE_READY` cannot: its commit would need distinct
generations, which the allocation rule forbids. An anchor whose operation or phase is
not spelled the way the validator compares it cannot either.
-/

namespace SharedLvmThin.Thick
open Perl TagCodec Runs

def Validated (before after : Record) : Prop := validateAnchorTransition before after = .ok ()

def IsMaterialized (h : Record) : Prop := uc (body (text h .phase)) = "MATERIALIZED"

instance (h : Record) : Decidable (IsMaterialized h) := by
  unfold IsMaterialized
  infer_instance

def CanMaterialize (h : Record) : Prop :=
  ∃ m, Relation.ReflTransGen Validated h m ∧ IsMaterialized m

theorem CanMaterialize.of_step {h k : Record} (hstep : Validated h k) (hk : CanMaterialize k) :
    CanMaterialize h := by
  obtain ⟨m, hpath, hm⟩ := hk
  exact ⟨m, hpath.head hstep, hm⟩

theorem isMaterialized_iff_v5 {h : Record} :
    IsMaterialized h ↔ phaseOfV5 h = some .materialized := by
  rw [phaseOfV5, PhaseV5.ofText?_eq_some]
  rfl

theorem isMaterialized_iff_v6 {h : Record} :
    IsMaterialized h ↔ phaseOfV6 h = some .materialized := by
  rw [phaseOfV6, PhaseV6.ofText?_eq_some]
  rfl

/-! ## Version 5 -/

/-- An accepted version 5 anchor whose phase the validator recognises. -/
structure EagerAt (h : Record) (p : PhaseV5) (op : Operation) : Prop where
  version : versionOf h = "5"
  accepted : EagerAccepted h p op
  spelled : uc (text h .phase) = p.text

section
variable {h k : Record} {p q : PhaseV5} {op : Operation}

/-- A record that differs from an accepted one in phase, head and generation only. -/
theorem EagerAccepted.update (ha : EagerAccepted h p op)
    (hk : ∀ f, f ≠ .phase → f ≠ .head → f ≠ .generation → k f = h f)
    (hphase : text k .phase = q.text) (htoken : isToken (text k .head) = true)
    (hgen : badGeneration (k .generation) = false) (hhead : HeadOk q k)
    (hop : OperationOk op k) : EagerAccepted k q op := by
  have ht : ∀ f, f ≠ .phase → f ≠ .head → f ≠ .generation → text k f = text h f :=
    fun f h1 h2 h3 => by rw [text, text, hk f h1 h2 h3]
  exact {
    tokens := fun f hf => by
      by_cases hh : f = .head
      · rw [hh]
        exact htoken
      · rw [ht f (by rintro rfl; revert hf; decide) hh (by rintro rfl; revert hf; decide)]
        exact ha.tokens f hf
    opToken := by
      rw [ht _ (by decide) (by decide) (by decide)]
      exact ha.opToken
    opRead := by
      rw [operationOf, ht _ (by decide) (by decide) (by decide)]
      exact ha.opRead
    phaseToken := by
      rw [hphase]
      cases q <;> decide
    phaseRead := by
      rw [phaseOfV5, hphase, PhaseV5.ofText?_eq_some]
      cases q <;> decide
    tx := by
      rw [hk _ (by decide) (by decide) (by decide)]
      exact ha.tx
    generation := hgen
    region := by
      rw [hk _ (by decide) (by decide) (by decide)]
      exact ha.region
    headOk := hhead
    operationOk := hop }

theorem EagerAt.accept (h5 : EagerAt h p op) : Accepted h :=
  (accepted_iff_eager h5.version).mpr ⟨p, op, h5.accepted⟩

/-- A phase change that leaves every other field alone. -/
theorem EagerAt.advance (h5 : EagerAt h p op) (hpq : allowedTransition p q = true)
    (hhead : HeadOk q h) (hmove : EagerMove p q h (put h .phase q.text)) :
    Validated h (put h .phase q.text) ∧ EagerAt (put h .phase q.text) q op := by
  have hacc : EagerAccepted (put h .phase q.text) q op := by
    refine h5.accepted.update (fun f hf _ _ => by simp [hf]) (by simp) ?_ ?_ ?_ ?_
    · simpa using h5.accepted.tokens .head (by decide)
    · simpa using h5.accepted.generation
    · exact hhead.congr (by simp) (by simp) (by simp)
    · refine h5.accepted.operationOk.congr fun f hf => ?_
      rw [text_put, if_neg (by rintro rfl; revert hf; decide)]
  have hto : uc q.text = q.text := by cases q <;> decide
  have hat : EagerAt (put h .phase q.text) q op :=
    ⟨by simpa [versionOf] using h5.version, hacc, by simpa using hto⟩
  refine ⟨(validate_eager_iff h5.version).mpr ⟨h5.accept, hat.accept, by simp, ?_⟩, hat⟩
  refine .move p q h5.spelled (by simpa using hto) hpq (fun f hf => ?_) hmove
  rw [text_put, if_neg (by rintro rfl; revert hf; decide)]

theorem keeps_put {fields : List Field} {f : Field} {s : String} (hf : f ∉ fields) :
    Keeps fields h (put h f s) := by
  intro g hg
  rw [text_put, if_neg (by rintro rfl; exact hf hg)]

/-- Every phase after the commit leads on. -/
theorem EagerAt.canMaterialize_published (h5 : EagerAt h p op)
    (hp : p ∈ [PhaseV5.committed, .hydrating, .hydrationComplete, .linearPivoted]) :
    CanMaterialize h := by
  have hstep : ∀ {h : Record} {p q : PhaseV5}, EagerAt h p op →
      p ∈ [PhaseV5.committed, .hydrating, .hydrationComplete, .linearPivoted] →
      allowedTransition p q = true →
      Validated h (put h .phase q.text) ∧ EagerAt (put h .phase q.text) q op := by
    intro h p q h5 hp hpq
    have hok := h5.accepted.headOk
    have hkeep : Keeps transactionFields h (put h .phase q.text) := keeps_put (by decide)
    have hnum : numberOf (put h .phase q.text) .generation = numberOf h .generation :=
      numberOf_congr (by simp)
    refine h5.advance hpq ?_ ?_
    · cases p <;> cases q <;> simp_all [HeadOk, allowedTransition]
    · cases p <;> cases q <;> first
        | exact absurd hpq (by decide)
        | exact absurd hp (by decide)
        | exact ⟨hkeep, by simp, hnum⟩
  have hlinear : ∀ {h : Record}, EagerAt h .linearPivoted op → CanMaterialize h := by
    intro h h5
    obtain ⟨hv, hat⟩ := hstep h5 (by decide) (q := .materialized) rfl
    exact .of_step hv ⟨_, .refl, isMaterialized_iff_v5.mpr hat.accepted.phaseRead⟩
  have hcomplete : ∀ {h : Record}, EagerAt h .hydrationComplete op → CanMaterialize h := by
    intro h h5
    obtain ⟨hv, hat⟩ := hstep h5 (by decide) (q := .linearPivoted) rfl
    exact .of_step hv (hlinear hat)
  simp only [List.mem_cons, List.not_mem_nil, or_false] at hp
  rcases hp with rfl | rfl | rfl | rfl
  · obtain ⟨hv, hat⟩ := hstep h5 (by decide) (q := .hydrationComplete) rfl
    exact .of_step hv (hcomplete hat)
  · obtain ⟨hv, hat⟩ := hstep h5 (by decide) (q := .hydrationComplete) rfl
    exact .of_step hv (hcomplete hat)
  · exact hcomplete h5
  · exact hlinear h5

def committedState (h : Record) : Record :=
  put (put (put h .phase "COMMITTED") .head (text h .new)) .generation
    (numberOf h .generation + 1).repr

theorem EagerAt.canMaterialize_sourceReady (h5 : EagerAt h .sourceReady op) (hop : op ≠ .alloc)
    (hgen : numberOf h .generation < 99999999) : CanMaterialize h := by
  have hnum : numberOf (committedState h) .generation = numberOf h .generation + 1 := by
    have htext : text (committedState h) .generation = (numberOf h .generation + 1).repr := by
      simp [committedState]
    rw [numberOf, htext, numify_repr (by omega), Perl.Num.value]
  have hold : text h .old ≠ text h .new := by
    have := h5.accepted.operationOk
    rw [OperationOk, if_neg hop] at this
    exact this.2.1
  have hacc : EagerAccepted (committedState h) .committed op := by
    refine h5.accepted.update (fun f h1 h2 h3 => by simp [committedState, h1, h2, h3])
      (by simp [committedState]; rfl) ?_ ?_ ?_ ?_
    · simpa [committedState] using h5.accepted.tokens .new (by decide)
    · have : committedState h .generation = some (numberOf h .generation + 1).repr := by
        simp [committedState]
      rw [this, badGeneration, badNumber, numify_repr (by omega), isDigits_repr]
      simpa [Perl.Num.gt] using hgen
    · simp [HeadOk, committedState, hold]
    · have := h5.accepted.operationOk
      rw [OperationOk, if_neg hop] at this ⊢
      simpa [committedState] using this
  have hat : EagerAt (committedState h) .committed op :=
    ⟨by simpa [versionOf, committedState] using h5.version, hacc,
      by simp [committedState]; decide⟩
  have hvalid : Validated h (committedState h) := by
    refine (validate_eager_iff h5.version).mpr
      ⟨h5.accept, hat.accept, by simp [committedState], ?_⟩
    refine .move .sourceReady .committed h5.spelled hat.spelled rfl ?_ ⟨?_, ?_, ?_, hnum⟩
    · intro f hf
      revert hf
      cases f <;> simp [committedState]
    · intro f hf
      revert hf
      cases f <;> simp [committedState, transactionFields]
    · simpa [HeadOk] using h5.accepted.headOk
    · simp [committedState]
  exact .of_step hvalid (hat.canMaterialize_published (by decide))

theorem EagerAt.canMaterialize_prepared (h5 : EagerAt h .prepared op) (hop : op ≠ .alloc)
    (hgen : numberOf h .generation < 99999999) : CanMaterialize h := by
  have hnum : numberOf (put h .phase PhaseV5.sourceReady.text) .generation =
      numberOf h .generation := numberOf_congr (by simp)
  obtain ⟨hv, hat⟩ := h5.advance (q := .sourceReady) rfl
    (by simpa [HeadOk] using h5.accepted.headOk) ⟨keeps_put (by decide), by simp, hnum⟩
  exact .of_step hv (hat.canMaterialize_sourceReady hop (by omega))

theorem EagerAt.canMaterialize_alloc (h5 : EagerAt h .prepared .alloc)
    (hop : text h .op = "ALLOC") : CanMaterialize h := by
  obtain ⟨-, hso, hon, hho⟩ : text h .snapshot = "none" ∧ text h .source = text h .old ∧
      text h .old = text h .new ∧ text h .head = text h .old := h5.accepted.operationOk
  obtain ⟨hv, hat⟩ := h5.advance (q := .materialized) rfl
    (by simpa [HeadOk] using hho.trans hon)
    ⟨keeps_put (by decide), hop, hso, hon, hho, by simp, numberOf_congr (by simp)⟩
  exact .of_step hv ⟨_, .refl, isMaterialized_iff_v5.mpr hat.accepted.phaseRead⟩

/-- The anchors that accepted steps can drive on: the phase has no final line feed, and
an allocation is still prepared and names its operation in upper case. -/
def FreeV5 (h : Record) : Prop :=
  ¬ EndsInNewline (text h .phase) ∧
    (operationOf h = some .alloc → phaseOfV5 h = some .prepared ∧ text h .op = "ALLOC")

theorem EagerAccepted.at (ha : EagerAccepted h p op) (hv : versionOf h = "5")
    (hnl : ¬ EndsInNewline (text h .phase)) : EagerAt h p op := by
  refine ⟨hv, ha, ?_⟩
  have := ha.phaseRead
  rwa [phaseOfV5, body_eq_self hnl, PhaseV5.ofText?_eq_some] at this

/-- An allocation is never accepted between the commit and its materialization. -/
theorem EagerAccepted.alloc_phase (ha : EagerAccepted h p .alloc) :
    p = .prepared ∨ p = .sourceReady ∨ p = .materialized := by
  have hop : text h .old = text h .new := ha.operationOk.2.2.1
  have hhead := ha.headOk
  cases p <;> simp_all [HeadOk]

theorem canMaterialize_of_freeV5 (hv : versionOf h = "5") (ha : EagerAccepted h p op)
    (hfree : FreeV5 h) (hgen : numberOf h .generation < 99999999)
    (hmat : ¬ IsMaterialized h) : CanMaterialize h := by
  have h5 := ha.at hv hfree.1
  have hp : p ≠ .materialized := by
    rintro rfl
    exact hmat (isMaterialized_iff_v5.mpr ha.phaseRead)
  by_cases hop : op = .alloc
  · subst hop
    obtain ⟨hprep, hspell⟩ := hfree.2 ha.opRead
    obtain rfl : p = .prepared := Option.some.inj (ha.phaseRead.symm.trans hprep)
    exact h5.canMaterialize_alloc hspell
  · cases p with
    | prepared => exact h5.canMaterialize_prepared hop hgen
    | sourceReady => exact h5.canMaterialize_sourceReady hop hgen
    | materialized => exact absurd rfl hp
    | committed => exact h5.canMaterialize_published (by decide)
    | hydrating => exact h5.canMaterialize_published (by decide)
    | hydrationComplete => exact h5.canMaterialize_published (by decide)
    | linearPivoted => exact h5.canMaterialize_published (by decide)

theorem operationOf_congr (ht : text k .op = text h .op) : operationOf k = operationOf h := by
  rw [operationOf, operationOf, ht]

/-- A stuck anchor stays stuck and short of `MATERIALIZED`. -/
theorem stuckV5_step (hv : versionOf h = "5") (hstuck : ¬ FreeV5 h) (hmat : ¬ IsMaterialized h)
    (hstep : Validated h k) : versionOf k = "5" ∧ ¬ FreeV5 k ∧ ¬ IsMaterialized k := by
  obtain ⟨hb, hk, hvt, hstep⟩ := (validate_eager_iff hv).mp hstep
  have hvk : versionOf k = "5" := by
    rw [versionOf, version_eq_of_text hb hk hvt]
    exact hv
  refine ⟨hvk, ?_⟩
  cases hstep with
  | same h5 hkeep =>
    have hphase := hkeep .phase (by decide)
    have hop := hkeep .op (by decide)
    simp only [FreeV5, IsMaterialized, phaseOfV5, operationOf, hphase, hop] at hstuck hmat ⊢
    exact ⟨hstuck, hmat⟩
  | move p q hp hq hpq hkeep hmove =>
    have hnl : ¬ EndsInNewline (text h .phase) := fun hn =>
      p.text_no_newline (hp ▸ uc_endsInNewline hn)
    have hpm : p ≠ .materialized := by
      rintro rfl
      exact hmat (isMaterialized_iff_v5.mpr (phaseOfV5_of_uc hp))
    -- only an allocation is left, and its step keeps the transaction
    obtain ⟨halloc, hne⟩ : operationOf h = some .alloc ∧
        ¬ (phaseOfV5 h = some .prepared ∧ text h .op = "ALLOC") := by
      simpa only [FreeV5, hnl, not_false_eq_true, true_and, Classical.not_imp] using hstuck
    obtain ⟨p', op', ha⟩ := (accepted_iff_eager hv).mp hb
    obtain rfl : .alloc = op' := Option.some.inj (halloc.symm.trans ha.opRead)
    obtain rfl : p = p' := Option.some.inj ((phaseOfV5_of_uc hp).symm.trans ha.phaseRead)
    have htx : Keeps transactionFields h k :=
      (EffectV5.move p q (phaseOfV5_of_uc hp) (phaseOfV5_of_uc hq) hpq hkeep hmove).transaction
        (by rw [phaseOfV5_of_uc hp]; exact fun he => hpm (Option.some.inj he))
    have hkalloc : operationOf k = some .alloc :=
      (operationOf_congr (htx .op (by decide))).trans halloc
    obtain ⟨q', oq, hka⟩ := (accepted_iff_eager hvk).mp hk
    obtain rfl : .alloc = oq := Option.some.inj (hkalloc.symm.trans hka.opRead)
    obtain rfl : q = q' := Option.some.inj ((phaseOfV5_of_uc hq).symm.trans hka.phaseRead)
    have hqs : q = .sourceReady := by
      rcases ha.alloc_phase with rfl | rfl | rfl
      · rcases hka.alloc_phase with rfl | rfl | rfl
        · exact absurd hpq (by decide)
        · rfl
        · exact absurd ⟨phaseOfV5_of_uc hp, hmove.2.1⟩ hne
      · rcases hka.alloc_phase with rfl | rfl | rfl <;> exact absurd hpq (by decide)
      · exact absurd rfl hpm
    subst hqs
    rw [isMaterialized_iff_v5, FreeV5, hka.phaseRead]
    exact ⟨fun hfree => absurd (hfree.2 hkalloc).1 (by decide), by decide⟩

theorem freeV5_of_canMaterialize (hv : versionOf h = "5") (hmat : ¬ IsMaterialized h)
    (hcan : CanMaterialize h) : FreeV5 h := by
  obtain ⟨m, hpath, hm⟩ := hcan
  by_contra hstuck
  have hinv : versionOf m = "5" ∧ ¬ FreeV5 m ∧ ¬ IsMaterialized m := by
    clear hm
    induction hpath with
    | refl => exact ⟨hv, hstuck, hmat⟩
    | tail _ hstep ih => exact stuckV5_step ih.1 ih.2.1 ih.2.2 hstep
  exact hinv.2.2 hm

end

/-! ## Version 6 -/

/-- An accepted version 6 anchor whose phase is spelled canonically. -/
structure LazyAt (h : Record) (p : PhaseV6) : Prop where
  version : versionOf h = "6"
  accepted : LazyAccepted h p
  spelled : text h .phase = p.text

/-- Owner identity of a version 6 anchor. -/
structure Owner where
  node : String
  boot : String
  epoch : String

def Owner.none : Owner := ⟨"none", "none", "none"⟩

def ownerOf (h : Record) : Owner := ⟨text h .ownerNode, text h .ownerBoot, text h .ownerEpoch⟩

def lazyState (h : Record) (q : PhaseV6) (publication : String) (owner : Owner) : Record :=
  put (put (put (put (put h .phase q.text) .publication publication) .ownerNode owner.node)
    .ownerBoot owner.boot) .ownerEpoch owner.epoch

section
variable {h k : Record} {p q : PhaseV6} {publication : String} {owner : Owner}

theorem keeps_lazyState : Keeps lazyImmutableFields h (lazyState h q publication owner) := by
  intro f hf
  revert hf
  cases f <;> simp [lazyState, lazyImmutableFields]

theorem LazyAccepted.state (ha : LazyAccepted h p)
    (htoken : ∀ f ∈ ownerFields, isToken (text (lazyState h q publication owner) f) = true)
    (hpub : badPublication (some publication) = false)
    (howner : OwnerOk q (lazyState h q publication owner))
    (hzero : q = .lazyPrepared ↔ (numify publication).value = 0) :
    LazyAccepted (lazyState h q publication owner) q := by
  have hk : ∀ f, f ≠ .phase → f ≠ .publication → f ∉ ownerFields →
      lazyState h q publication owner f = h f := by
    intro f h1 h2 h3
    revert h1 h2 h3
    cases f <;> simp [lazyState, ownerFields]
  have ht : ∀ f, f ≠ .phase → f ≠ .publication → f ∉ ownerFields →
      text (lazyState h q publication owner) f = text h f := fun f h1 h2 h3 => by
    rw [text, text, hk f h1 h2 h3]
  have hphase : text (lazyState h q publication owner) .phase = q.text := by
    simp [lazyState]
  have hpubt : lazyState h q publication owner .publication = some publication := by
    simp [lazyState]
  exact {
    tokens := fun f hf => by
      by_cases ho : f ∈ ownerFields
      · exact htoken f ho
      · rw [ht f (by rintro rfl; revert hf; decide) (by rintro rfl; revert hf; decide) ho]
        exact ha.tokens f hf
    opToken := by
      rw [ht _ (by decide) (by decide) (by decide)]
      exact ha.opToken
    opRead := by
      rw [ht _ (by decide) (by decide) (by decide)]
      exact ha.opRead
    phaseToken := by
      rw [hphase]
      cases q <;> decide
    phaseRead := phaseOfV6_of_text hphase
    tx := by
      rw [hk _ (by decide) (by decide) (by decide)]
      exact ha.tx
    policy := by
      rw [ht _ (by decide) (by decide) (by decide)]
      exact ha.policy
    zeroSource := by
      rw [ht _ (by decide) (by decide) (by decide)]
      exact ha.zeroSource
    snapshot := by
      rw [ht _ (by decide) (by decide) (by decide)]
      exact ha.snapshot
    sourceOld := by
      rw [ht _ (by decide) (by decide) (by decide), ht _ (by decide) (by decide) (by decide)]
      exact ha.sourceOld
    oldNew := by
      rw [ht _ (by decide) (by decide) (by decide), ht _ (by decide) (by decide) (by decide)]
      exact ha.oldNew
    newHead := by
      rw [ht _ (by decide) (by decide) (by decide), ht _ (by decide) (by decide) (by decide)]
      exact ha.newHead
    generation := by
      rw [hk _ (by decide) (by decide) (by decide)]
      exact ha.generation
    region := by
      rw [hk _ (by decide) (by decide) (by decide)]
      exact ha.region
    bytes := by
      rw [hk _ (by decide) (by decide) (by decide)]
      exact ha.bytes
    publication := by
      rw [hpubt]
      exact hpub
    owner := howner
    published := by
      rw [numberOf, text, hpubt]
      exact hzero }

theorem LazyAt.accept (h6 : LazyAt h p) : Accepted h :=
  (accepted_iff_lazy h6.version).mpr ⟨p, h6.accepted⟩

theorem LazyAt.advance (h6 : LazyAt h p) (hpq : allowedLazyTransition p q = true)
    (hacc : LazyAccepted (lazyState h q publication owner) q)
    (hmove : LazyMove p q h (lazyState h q publication owner)) :
    Validated h (lazyState h q publication owner) ∧
      LazyAt (lazyState h q publication owner) q := by
  have hat : LazyAt (lazyState h q publication owner) q :=
    ⟨by simpa [versionOf, lazyState] using h6.version, hacc, by simp [lazyState]⟩
  refine ⟨(validate_lazy_iff h6.version).mpr
    ⟨h6.accept, hat.accept, keeps_lazyState .v (by decide), ?_⟩, hat⟩
  exact .move p q h6.spelled hat.spelled hpq keeps_lazyState hmove

@[simp] theorem text_lazyState_publication :
    text (lazyState h q publication owner) .publication = publication := by
  simp [lazyState]

@[simp] theorem ownerOf_lazyState : ownerOf (lazyState h q publication owner) = owner := by
  simp [ownerOf, lazyState]

theorem ownerFields_of_eq {P : String → Prop} (h1 : P (ownerOf h).node) (h2 : P (ownerOf h).boot)
    (h3 : P (ownerOf h).epoch) : ∀ f ∈ ownerFields, P (text h f) := by
  intro f hf
  simp only [ownerFields, List.mem_cons, List.not_mem_nil, or_false] at hf
  rcases hf with rfl | rfl | rfl
  · exact h1
  · exact h2
  · exact h3

theorem owner_cleared : ∀ f ∈ ownerFields,
    text (lazyState h q publication Owner.none) f = "none" :=
  ownerFields_of_eq (P := fun s => s = "none") (by simp [Owner.none]) (by simp [Owner.none])
    (by simp [Owner.none])

theorem ownerOk_cleared (hq : q.owned = false) :
    OwnerOk q (lazyState h q publication Owner.none) := by
  rw [OwnerOk, if_neg (by simp [hq])]
  exact ⟨owner_cleared _ (by decide), owner_cleared _ (by decide), owner_cleared _ (by decide)⟩

theorem LazyAccepted.same_publication (ha : LazyAccepted h p) (hp : p ≠ .lazyPrepared)
    (hq : q ≠ .lazyPrepared) :
    badPublication (some (text h .publication)) = false ∧
      (q = .lazyPrepared ↔ (numify (text h .publication)).value = 0) := by
  refine ⟨?_, ?_⟩
  · rw [← (defined_of_badNumber ha.publication).1]
    exact ha.publication
  · have := ha.published
    simp only [numberOf] at this
    simp [hq, ← this, hp]

/-- A step within one period of ownership. -/
theorem LazyAt.advance_owned (h6 : LazyAt h p) (hp : p.owned = true) (hq : q.owned = true)
    (hpq : allowedLazyTransition p q = true) :
    ∃ k, Validated h k ∧ LazyAt k q := by
  have hown := h6.accepted.owner
  rw [OwnerOk, if_pos hp] at hown
  obtain ⟨hnode, hboot, hepoch, huuid, htx⟩ := hown
  have hpub := h6.accepted.same_publication (q := q) (by rintro rfl; exact absurd hp (by decide))
    (by rintro rfl; exact absurd hq (by decide))
  have htext : ∀ f ∈ ownerFields,
      text (lazyState h q (text h .publication) (ownerOf h)) f = text h f := by
    intro f hf
    revert hf
    cases f <;> simp [lazyState, ownerOf, ownerFields]
  have hacc : LazyAccepted (lazyState h q (text h .publication) (ownerOf h)) q := by
    refine h6.accepted.state (fun f hf => ?_) hpub.1 ?_ hpub.2
    · rw [htext f hf]
      exact h6.accepted.tokens f (by revert hf; cases f <;> decide)
    · rw [OwnerOk, if_pos hq, htext _ (by decide), htext _ (by decide), htext _ (by decide)]
      refine ⟨hnode, hboot, hepoch, huuid, ?_⟩
      rw [(plain_of_isTx htx).1] at htx
      simpa [lazyState, ownerOf] using htx
  have hnum : numberOf (lazyState h q (text h .publication) (ownerOf h)) .publication =
      numberOf h .publication := numberOf_congr (by simp)
  refine ⟨_, h6.advance hpq hacc ?_⟩
  cases p <;> cases q <;> first
    | exact absurd hpq (by decide)
    | exact absurd hp (by decide)
    | exact absurd hq (by decide)
    | exact ⟨hnum, htext⟩

theorem LazyAt.canMaterialize_owned (h6 : LazyAt h p) (hp : p.owned = true) :
    CanMaterialize h := by
  have hpivot : ∀ {h : Record}, LazyAt h .linearPivoted → CanMaterialize h := by
    intro h h6
    have hpub := h6.accepted.same_publication (q := .materialized) (by decide) (by decide)
    have hacc : LazyAccepted (lazyState h .materialized (text h .publication) Owner.none)
        .materialized := by
      refine h6.accepted.state (fun f hf => ?_) hpub.1 (ownerOk_cleared rfl) hpub.2
      rw [owner_cleared f hf]
      decide
    obtain ⟨hv, hat⟩ := h6.advance (q := .materialized) rfl hacc
      ⟨numberOf_congr (by simp), owner_cleared⟩
    exact .of_step hv ⟨_, .refl, isMaterialized_iff_v6.mpr hat.accepted.phaseRead⟩
  have hcomplete : ∀ {h : Record}, LazyAt h .hydrationComplete → CanMaterialize h := by
    intro h h6
    obtain ⟨k, hv, hat⟩ := h6.advance_owned (q := .linearPivoted) rfl rfl rfl
    exact .of_step hv (hpivot hat)
  have hmaterializing : ∀ {h : Record}, LazyAt h .materializing → CanMaterialize h := by
    intro h h6
    obtain ⟨k, hv, hat⟩ := h6.advance_owned (q := .hydrationComplete) rfl rfl rfl
    exact .of_step hv (hcomplete hat)
  have hactive : ∀ {h : Record}, LazyAt h .lazyActive → CanMaterialize h := by
    intro h h6
    obtain ⟨k, hv, hat⟩ := h6.advance_owned (q := .materializing) rfl rfl rfl
    exact .of_step hv (hmaterializing hat)
  cases p with
  | lazyPrepared => exact absurd hp (by decide)
  | lazyDormant => exact absurd hp (by decide)
  | materialized => exact absurd hp (by decide)
  | lazyClaimed =>
    obtain ⟨k, hv, hat⟩ := h6.advance_owned (q := .lazyActive) rfl rfl rfl
    exact .of_step hv (hactive hat)
  | lazyActive => exact hactive h6
  | materializing => exact hmaterializing h6
  | hydrationComplete => exact hcomplete h6
  | linearPivoted => exact hpivot h6

/-- Some node that could claim the volume. -/
def claimant : Owner :=
  ⟨"node", "00000000-0000-0000-0000-000000000000", "00000000000000000000000000000000"⟩

theorem publication_repr {n : Nat} (hn : n ≤ 9999999999) :
    badPublication (some n.repr) = false ∧ (numify n.repr).value = n := by
  rw [badPublication, badNumber, numify_repr (by omega), isDigits_repr]
  simpa [Perl.Num.gt, Perl.Num.value] using hn

theorem LazyAt.canMaterialize_dormant (h6 : LazyAt h .lazyDormant)
    (hn : numberOf h .publication < 9999999999) : CanMaterialize h := by
  obtain ⟨hpub, hval⟩ := publication_repr (n := numberOf h .publication + 1) (by omega)
  have hnum : numberOf (lazyState h .lazyClaimed (numberOf h .publication + 1).repr claimant)
      .publication = numberOf h .publication + 1 := by
    rw [numberOf, text_lazyState_publication, hval]
  have hacc : LazyAccepted
      (lazyState h .lazyClaimed (numberOf h .publication + 1).repr claimant) .lazyClaimed := by
    refine h6.accepted.state ?_ hpub ?_ (by simp [hval])
    · refine ownerFields_of_eq (P := fun s => isToken s = true) ?_ ?_ ?_ <;>
        rw [ownerOf_lazyState] <;> decide
    · simp only [OwnerOk, PhaseV6.owned, if_true, lazyState, text_put, put_apply, reduceCtorEq,
        if_false]
      decide
  obtain ⟨hv, hat⟩ := h6.advance (q := .lazyClaimed) rfl hacc
    ⟨hnum, by simp [lazyState, claimant]⟩
  exact .of_step hv (hat.canMaterialize_owned rfl)

theorem LazyAt.canMaterialize_prepared (h6 : LazyAt h .lazyPrepared) : CanMaterialize h := by
  have hzero : numberOf h .publication = 0 := h6.accepted.published.mp rfl
  have hone : (numify "1").value = 1 := by decide
  have hnum : numberOf (lazyState h .lazyDormant "1" Owner.none) .publication = 1 := by
    rw [numberOf, text_lazyState_publication, hone]
  have hacc : LazyAccepted (lazyState h .lazyDormant "1" Owner.none) .lazyDormant := by
    refine h6.accepted.state (fun f hf => ?_) (by decide) (ownerOk_cleared rfl) (by simp [hone])
    rw [owner_cleared f hf]
    decide
  obtain ⟨hv, hat⟩ := h6.advance (q := .lazyDormant) rfl hacc ⟨hzero, hnum, owner_cleared⟩
  exact .of_step hv (hat.canMaterialize_dormant (by omega))

/-- The version 6 anchors that accepted steps can drive on. -/
def FreeV6 (h : Record) : Prop := ∃ p : PhaseV6, text h .phase = p.text

theorem canMaterialize_of_freeV6 (hv : versionOf h = "6") (ha : Accepted h) (hfree : FreeV6 h)
    (hpub : numberOf h .publication < 9999999999) (hmat : ¬ IsMaterialized h) :
    CanMaterialize h := by
  obtain ⟨p, hp⟩ := hfree
  obtain ⟨p', ha⟩ := (accepted_iff_lazy hv).mp ha
  obtain rfl : p = p' := Option.some.inj ((phaseOfV6_of_text hp).symm.trans ha.phaseRead)
  have h6 : LazyAt h p := ⟨hv, ha, hp⟩
  cases p with
  | lazyPrepared => exact h6.canMaterialize_prepared
  | lazyDormant => exact h6.canMaterialize_dormant hpub
  | materialized => exact absurd (isMaterialized_iff_v6.mpr ha.phaseRead) hmat
  | lazyClaimed => exact h6.canMaterialize_owned rfl
  | lazyActive => exact h6.canMaterialize_owned rfl
  | materializing => exact h6.canMaterialize_owned rfl
  | hydrationComplete => exact h6.canMaterialize_owned rfl
  | linearPivoted => exact h6.canMaterialize_owned rfl

theorem freeV6_step (hv : versionOf h = "6") (hstep : Validated h k) :
    versionOf k = "6" ∧ (FreeV6 k ↔ FreeV6 h) ∧
      (¬ FreeV6 h → text k .phase = text h .phase) := by
  obtain ⟨hb, hk, hvt, hstep⟩ := (validate_lazy_iff hv).mp hstep
  refine ⟨by rw [versionOf, version_eq_of_text hb hk hvt]; exact hv, ?_⟩
  cases hstep with
  | same hkeep =>
    have hphase := hkeep .phase (by decide)
    exact ⟨by rw [FreeV6, FreeV6, hphase], fun _ => hphase⟩
  | move p q hp hq hpq hkeep hmove =>
    exact ⟨⟨fun _ => ⟨p, hp⟩, fun _ => ⟨q, hq⟩⟩, fun hstuck => absurd ⟨p, hp⟩ hstuck⟩

theorem freeV6_of_canMaterialize (hv : versionOf h = "6") (hmat : ¬ IsMaterialized h)
    (hcan : CanMaterialize h) : FreeV6 h := by
  obtain ⟨m, hpath, hm⟩ := hcan
  by_contra hstuck
  have hinv : versionOf m = "6" ∧ ¬ FreeV6 m ∧ text m .phase = text h .phase := by
    clear hm
    induction hpath with
    | refl => exact ⟨hv, hstuck, rfl⟩
    | tail _ hstep ih =>
      obtain ⟨hv', hiff, hphase⟩ := freeV6_step ih.1 hstep
      exact ⟨hv', hiff.not.mpr ih.2.1, (hphase ih.2.1).trans ih.2.2⟩
  rw [IsMaterialized, hinv.2.2] at hm
  exact hmat hm

end

/-! ## Runs -/

def StartV5 (h : Record) : Prop :=
  Accepted h ∧ versionOf h = "5" ∧ phaseOfV5 h = some .prepared ∧ operationOf h = some .alloc

def StartV6 (h : Record) : Prop :=
  Accepted h ∧ versionOf h = "6" ∧ phaseOfV6 h = some .lazyPrepared

/-- The step that strands an allocation. -/
def AllocToSourceReady (before after : Record) : Prop :=
  operationOf before = some .alloc ∧ phaseOfV5 before = some .prepared ∧
    phaseOfV5 after = some .sourceReady

/-- What a run that never strands an allocation keeps. -/
def OnTrackV5 (h : Record) : Prop :=
  ¬ EndsInNewline (text h .phase) ∧
    (operationOf h = some .alloc →
      (phaseOfV5 h = some .prepared ∨ phaseOfV5 h = some .materialized) ∧ text h .op = "ALLOC")

theorem onTrackV5_step {before after : Record} (hstep : StepV5 before after)
    (htrack : OnTrackV5 before) (hnot : ¬ AllocToSourceReady before after) : OnTrackV5 after := by
  obtain ⟨hacc, hva⟩ := stepV5_accepted hstep
  rcases hstep with ⟨hv, hval⟩ | ⟨tx, hreb⟩
  · obtain ⟨-, -, -, hstep⟩ := (validate_eager_iff hv).mp hval
    cases hstep with
    | same h5 hkeep =>
      have hphase := hkeep .phase (by decide)
      have hop := hkeep .op (by decide)
      simpa only [OnTrackV5, phaseOfV5, operationOf, hphase, hop] using htrack
    | move p q hp hq hpq hkeep hmove =>
      refine ⟨fun hn => q.text_no_newline (hq ▸ uc_endsInNewline hn), fun halloc => ?_⟩
      obtain ⟨q', op, ha⟩ := (accepted_iff_eager hva).mp hacc
      obtain rfl : .alloc = op := Option.some.inj (halloc.symm.trans ha.opRead)
      have hon : text after .old = text after .new := ha.operationOk.2.2.1
      have heff := EffectV5.move p q (phaseOfV5_of_uc hp) (phaseOfV5_of_uc hq) hpq hkeep hmove
      have hpm : p ≠ .materialized := by
        rintro rfl
        cases q <;> first
          | exact absurd hpq (by decide)
          | exact hmove.2.2.2.1 (hon.symm.trans hmove.2.1)
      have htx := heff.transaction
        (by rw [phaseOfV5_of_uc hp]; exact fun he => hpm (Option.some.inj he))
      have hop := htx .op (by decide)
      obtain ⟨hphase, hspell⟩ := htrack.2 ((operationOf_congr hop).symm.trans halloc)
      have hpp : phaseOfV5 before = some .prepared := by
        rcases hphase with h | h
        · exact h
        · exact absurd (Option.some.inj ((phaseOfV5_of_uc hp).symm.trans h)) hpm
      obtain rfl : p = .prepared := Option.some.inj ((phaseOfV5_of_uc hp).symm.trans hpp)
      refine ⟨Or.inr ?_, hop.trans hspell⟩
      cases q <;> first
        | exact absurd hpq (by decide)
        | exact phaseOfV5_of_uc hq
        | exact absurd ⟨(operationOf_congr hop).symm.trans halloc, hpp, phaseOfV5_of_uc hq⟩ hnot
  · obtain ⟨-, -, hphase, -, -, -, rfl⟩ := materializedRebaseState_eq_ok.mp hreb
    have hp : text (rebased before (tx.getD "")) .phase = "MATERIALIZED" := by
      simpa [rebased] using hphase
    refine ⟨by rw [hp]; decide, fun _ => ⟨Or.inr ?_, by simp [rebased]⟩⟩
    rw [phaseOfV5, hp]
    decide

/-- No anchor is stranded on a run that starts in the canonical spelling and never moves an
allocation to `SOURCE_READY`; and in every run the anchors that are stranded are exactly
those outside `FreeV5` and `FreeV6`. -/
theorem anchor_progress (σ : ℕ → Record) (n : ℕ) :
    (IsRun StepV5 σ n → StartV5 (σ 0) →
      (text (σ 0) .op = "ALLOC" → ¬ EndsInNewline (text (σ 0) .phase) →
        (∀ k < n, ¬ AllocToSourceReady (σ k) (σ (k + 1))) →
        ∀ i ≤ n, numberOf (σ i) .generation < 99999999 → ¬ IsMaterialized (σ i) →
          CanMaterialize (σ i)) ∧
      (∀ i ≤ n, numberOf (σ i) .generation < 99999999 → ¬ IsMaterialized (σ i) →
        (CanMaterialize (σ i) ↔ FreeV5 (σ i)))) ∧
    (IsRun StepV6 σ n → StartV6 (σ 0) →
      (text (σ 0) .phase = "LAZY_PREPARED" →
        ∀ i ≤ n, numberOf (σ i) .publication < 9999999999 → ¬ IsMaterialized (σ i) →
          CanMaterialize (σ i)) ∧
      (∀ i ≤ n, numberOf (σ i) .publication < 9999999999 → ¬ IsMaterialized (σ i) →
        (CanMaterialize (σ i) ↔ FreeV6 (σ i)))) := by
  constructor
  · rintro hrun ⟨h0, hv, hphase, hop⟩
    have hacc : ∀ i ≤ n, Accepted (σ i) ∧ versionOf (σ i) = "5" :=
      hrun.invariant ⟨h0, hv⟩ fun a b hab _ => stepV5_accepted hab
    have hexact : ∀ i ≤ n, numberOf (σ i) .generation < 99999999 → ¬ IsMaterialized (σ i) →
        (CanMaterialize (σ i) ↔ FreeV5 (σ i)) := by
      intro i hi hgen hmat
      obtain ⟨p, op, ha⟩ := (accepted_iff_eager (hacc i hi).2).mp (hacc i hi).1
      exact ⟨freeV5_of_canMaterialize (hacc i hi).2 hmat,
        fun hfree => canMaterialize_of_freeV5 (hacc i hi).2 ha hfree hgen hmat⟩
    refine ⟨fun hspell hnl hnot i hi hgen hmat => ?_, hexact⟩
    have htrack : ∀ i ≤ n, OnTrackV5 (σ i) := by
      intro i
      induction i with
      | zero => exact fun _ => ⟨hnl, fun _ => ⟨Or.inl hphase, hspell⟩⟩
      | succ i ih =>
        exact fun hi => onTrackV5_step (hrun i (by omega)) (ih (by omega)) (hnot i (by omega))
    refine (hexact i hi hgen hmat).mpr ⟨(htrack i hi).1, fun halloc => ?_⟩
    obtain ⟨hp | hm, hop⟩ := (htrack i hi).2 halloc
    · exact ⟨hp, hop⟩
    · exact absurd (isMaterialized_iff_v5.mpr hm) hmat
  · rintro hrun ⟨h0, hv, -⟩
    have hacc : ∀ i ≤ n, Accepted (σ i) ∧ versionOf (σ i) = "6" :=
      hrun.invariant ⟨h0, hv⟩ fun a b hab _ => stepV6_accepted hab
    have hexact : ∀ i ≤ n, numberOf (σ i) .publication < 9999999999 → ¬ IsMaterialized (σ i) →
        (CanMaterialize (σ i) ↔ FreeV6 (σ i)) := by
      intro i hi hpub hmat
      exact ⟨freeV6_of_canMaterialize (hacc i hi).2 hmat, fun hfree =>
        canMaterialize_of_freeV6 (hacc i hi).2 (hacc i hi).1 hfree hpub hmat⟩
    refine ⟨fun hspell i hi hpub hmat => (hexact i hi hpub hmat).mpr ?_, hexact⟩
    exact (hrun.invariant (P := fun r => FreeV6 r) ⟨.lazyPrepared, hspell⟩
      fun a b hab hfree => ((freeV6_step hab.1 hab.2).2.1).mpr hfree) i hi

theorem snapshotRun_progress : CanMaterialize (snapshotRun 3) := by
  have hnot : ∀ k < 4, ¬ AllocToSourceReady (snapshotRun k) (snapshotRun (k + 1)) := by
    intro k hk
    interval_cases k <;> (rw [AllocToSourceReady]; decide)
  exact ((anchor_progress snapshotRun 4).1 snapshotRun_isRun
    ⟨accepted_of_values (snapshotRun_values 0 (by decide)), by decide, by decide, by decide⟩).1
    (by decide) (by decide) hnot 3 (by decide) (by decide) (by decide)

/-- An allocation that is advanced to `SOURCE_READY`. -/
def strandedRun : ℕ → Record
  | 0 => snapshotRun.allocated "PREPARED"
  | _ => snapshotRun.allocated "SOURCE_READY"

theorem strandedRun_stuck :
    IsRun StepV5 strandedRun 1 ∧ StartV5 (strandedRun 0) ∧
      numberOf (strandedRun 1) .generation < 99999999 ∧ ¬ IsMaterialized (strandedRun 1) ∧
      ¬ CanMaterialize (strandedRun 1) := by
  have hstart : (anchorValues (strandedRun 0)).isOk = true := by decide +kernel
  have hready : (anchorValues (strandedRun 1)).isOk = true := by decide +kernel
  refine ⟨fun i hi => ?_, ⟨accepted_of_values hstart, by decide, by decide, by decide⟩,
    by decide, by decide, fun hcan => ?_⟩
  · interval_cases i
    exact Or.inl ⟨by decide, validate_of_values hstart hready (by decide) (by decide)⟩
  · have hfree := freeV5_of_canMaterialize (by decide) (by decide) hcan
    exact absurd (hfree.2 (by decide)).1 (by decide)

end SharedLvmThin.Thick
