import SharedLvmThin.ThickTags

/-!
# What the Thick encoders accept

One lemma per encoder: the records it accepts, as a condition on the given values,
and the normalised record it signs.
-/

namespace SharedLvmThin.Thick
open Perl TagCodec

section
variable {h : Record} {f g : Field} {s : String}

@[simp] theorem text_put : text (put h f s) g = if g = f then s else text h g := by
  by_cases hg : g = f
  · subst hg; simp [put, text]
  · simp [put, text, hg]

@[simp] theorem put_apply : put h f s g = if g = f then some s else h g := by
  by_cases hg : g = f
  · subst hg; simp [put]
  · simp [put, hg]

@[simp] theorem text_putInt :
    text (putInt h f) g = if g = f then (numify (text h f)).text else text h g := by
  simp [putInt]

@[simp] theorem putInt_apply :
    putInt h f g = if g = f then some (numify (text h f)).text else h g := by
  simp [putInt]

theorem isToken_empty : isToken "" = false := by decide

theorem some_of_isToken (ht : isToken (text h f) = true) : h f = some (text h f) := by
  cases hf : h f with
  | none => simp [text, hf, isToken_empty] at ht
  | some t => simp [text, hf]

theorem token_eq_ok {label : String} {value : Option String} :
    token label value = .ok s ↔ isToken (value.getD "") = true ∧ s = body (value.getD "") := by
  simp only [token, bind_eq_ok, dieIf_eq_ok, pure_eq_ok, decide_eq_false_iff_not, exists_const,
    Bool.not_eq_false']
  constructor
  · rintro ⟨-, ht, rfl⟩
    exact ⟨ht, rfl⟩
  · rintro ⟨ht, rfl⟩
    refine ⟨?_, ht, rfl⟩
    intro he
    simp [he, isToken_empty] at ht

@[simp] theorem requireToken_eq_ok {label : String} {u : Unit} :
    requireToken label (h f) = .ok u ↔ isToken (text h f) = true := by
  simp only [requireToken, bind_eq_ok, token_eq_ok, text]
  constructor
  · rintro ⟨_, ⟨ht, -⟩, -⟩
    exact ht
  · intro ht
    exact ⟨_, ⟨ht, rfl⟩, rfl⟩

theorem body_no_newline_of_isToken (ht : isToken s = true) : ¬ EndsInNewline (body s) :=
  not_endsInNewline_of_all (by decide) (plus_iff.mp ht).2

end

def HeadOk (phase : PhaseV5) (h : Record) : Prop :=
  if phase = .prepared ∨ phase = .sourceReady then text h .head = text h .old
  else text h .head = text h .new ∧ (phase ≠ .materialized → text h .old ≠ text h .new)

def OperationOk (op : Operation) (h : Record) : Prop :=
  if op = .alloc then
    text h .snapshot = "none" ∧ text h .source = text h .old ∧ text h .old = text h .new ∧
      text h .head = text h .old
  else
    text h .snapshot ≠ "none" ∧ text h .old ≠ text h .new ∧ text h .source ≠ text h .new ∧
      (op = .snapshot → text h .source = text h .old) ∧
      (op = .rollback → text h .source ≠ text h .old)

theorem checkHead_eq_ok {phase : PhaseV5} {h : Record} {u : Unit} :
    checkHead phase h = .ok u ↔ HeadOk phase h := by
  simp only [checkHead, HeadOk]
  split_ifs
  · simp
  · simp

theorem checkOperation_eq_ok {op : Operation} {h : Record} {u : Unit} :
    checkOperation op h = .ok u ↔ OperationOk op h := by
  simp only [checkOperation, OperationOk]
  split_ifs
  · simp
  · simp

/-- The operation and phase an encoder reads: capture of the token, in upper case. -/
def operationOf (h : Record) : Option Operation := Operation.ofText? (uc (body (text h .op)))

def phaseOfV5 (h : Record) : Option PhaseV5 := PhaseV5.ofText? (uc (body (text h .phase)))

def phaseOfV6 (h : Record) : Option PhaseV6 := PhaseV6.ofText? (uc (body (text h .phase)))

structure EagerAccepted (h : Record) (phase : PhaseV5) (op : Operation) : Prop where
  tokens : ∀ f ∈ eagerTokenFields, isToken (text h f) = true
  opToken : isToken (text h .op) = true
  opRead : operationOf h = some op
  phaseToken : isToken (text h .phase) = true
  phaseRead : phaseOfV5 h = some phase
  tx : isTx (h .tx) = true
  generation : badGeneration (h .generation) = false
  region : badRegion (h .region) = false
  headOk : HeadOk phase h
  operationOk : OperationOk op h

def eagerNormal (h : Record) : Record :=
  putInt (putInt (put (put h .op (uc (body (text h .op)))) .phase (uc (body (text h .phase))))
    .generation) .region

theorem eagerAnchorValues_eq_ok {h n : Record} :
    eagerAnchorValues h = .ok n ↔ (∃ phase op, EagerAccepted h phase op) ∧ n = eagerNormal h := by
  simp only [eagerAnchorValues, bind_eq_ok, dieIf_eq_ok, pure_eq_ok, forEach_eq_ok,
    requireToken_eq_ok, token_eq_ok, checkHead_eq_ok, checkOperation_eq_ok, put_apply, putInt_apply,
    reduceCtorEq, if_false, HeadOk, OperationOk, text_put, text_putInt, Bool.not_eq_false',
    exists_const, Option.isNone_eq_false_iff, Option.isSome_iff_exists]
  constructor
  · rintro ⟨htok, _, ⟨hop, rfl⟩, ⟨op, hopr⟩, _, ⟨hph, rfl⟩, ⟨phase, hphr⟩, htx, hgen, hreg, hhead,
      hoper, rfl⟩
    simp only [hphr, hopr, Option.getD_some] at hhead hoper
    exact ⟨⟨phase, op, ⟨htok, hop, hopr, hph, hphr, htx, hgen, hreg, hhead, hoper⟩⟩, rfl⟩
  · rintro ⟨⟨phase, op, ha⟩, rfl⟩
    have hopr : Operation.ofText? (uc (body ((h .op).getD ""))) = some op := ha.opRead
    have hphr : PhaseV5.ofText? (uc (body ((h .phase).getD ""))) = some phase := ha.phaseRead
    refine ⟨ha.tokens, _, ⟨ha.opToken, rfl⟩, ⟨op, hopr⟩, _, ⟨ha.phaseToken, rfl⟩, ⟨phase, hphr⟩,
      ha.tx, ha.generation, ha.region, ?_, ?_, rfl⟩
    · simp only [hphr, Option.getD_some]
      exact ha.headOk
    · simp only [hopr, Option.getD_some]
      exact ha.operationOk

/-! ## Numbers in records -/

def numberOf (h : Record) (f : Field) : Nat := (numify (text h f)).value

theorem badNumber_eq_false {value : Option String} {bad : Perl.Num → Bool} :
    badNumber value bad = false ↔
      ∃ s, value = some s ∧ isDigits s = true ∧ bad (numify s) = false := by
  cases value <;> simp [badNumber]

theorem bounded_of_badNumber {h : Record} {f : Field} {k : Nat} (hk : k < 2 ^ 64)
    (hb : badNumber (h f) (fun n => n.gt k) = false) :
    h f = some (text h f) ∧ isDigits (text h f) = true ∧
      numify (text h f) = .int (numberOf h f) ∧ numberOf h f ≤ k := by
  obtain ⟨s, hs, hd, hgt⟩ := badNumber_eq_false.mp hb
  have ht : text h f = s := by simp [text, hs]
  obtain ⟨n, hn, hnum⟩ := numify_of_not_gt hk hgt
  simp [numberOf, ht, hs, hd, hnum, Perl.Num.value, hn]

def OwnerOk (phase : PhaseV6) (h : Record) : Prop :=
  if phase.owned then
    text h .ownerNode ≠ "none" ∧ text h .ownerBoot ≠ "none" ∧ text h .ownerEpoch ≠ "none" ∧
      exactly 36 (fun c => isLowerHex c || c = '-') (body (text h .ownerBoot)) = true ∧
      isTx (h .ownerEpoch) = true
  else
    text h .ownerNode = "none" ∧ text h .ownerBoot = "none" ∧ text h .ownerEpoch = "none"

theorem checkOwner_eq_ok {phase : PhaseV6} {h : Record} {u : Unit} :
    checkOwner phase h = .ok u ↔ OwnerOk phase h := by
  simp only [checkOwner, OwnerOk]
  split_ifs
  · simp
  · simp

structure LazyAccepted (h : Record) (phase : PhaseV6) : Prop where
  tokens : ∀ f ∈ lazyTokenFields, isToken (text h f) = true
  opToken : isToken (text h .op) = true
  opRead : uc (body (text h .op)) = "ALLOC"
  phaseToken : isToken (text h .phase) = true
  phaseRead : phaseOfV6 h = some phase
  tx : isTx (h .tx) = true
  policy : text h .policy = "lazy-zero"
  zeroSource : text h .zeroSource = "dm-zero"
  snapshot : text h .snapshot = "none"
  sourceOld : text h .source = text h .old
  oldNew : text h .old = text h .new
  newHead : text h .new = text h .head
  generation : badGeneration (h .generation) = false
  region : badRegion (h .region) = false
  bytes : badBytes (h .bytes) = false
  publication : badPublication (h .publication) = false
  owner : OwnerOk phase h
  published : phase = .lazyPrepared ↔ numberOf h .publication = 0

def lazyNormal (h : Record) : Record :=
  putInt (putInt (putInt (putInt (put (put h .op (uc (body (text h .op))))
    .phase (uc (body (text h .phase)))) .generation) .region) .bytes) .publication

/-- The publication rule after `int`, for a number within its bound. -/
theorem checkPublication_eq_ok {phase : PhaseV6} {h k : Record} {u : Unit}
    (hk : text k .publication = (numify (text h .publication)).text)
    (hb : badPublication (h .publication) = false) :
    checkPublication phase k = .ok u ↔ (phase = .lazyPrepared ↔ numberOf h .publication = 0) := by
  obtain ⟨-, -, hnum, hle⟩ := bounded_of_badNumber (by norm_num) hb
  have hk' : numify (text k .publication) = .int (numberOf h .publication) := by
    rw [hk, hnum, Perl.Num.text, numify_repr (by omega)]
  simp only [checkPublication, bind_eq_ok, dieIf_eq_ok, hk', Perl.Num.gt, Perl.Num.lt, exists_const,
    decide_eq_false_iff_not, decide_eq_true_eq, not_and, not_lt]
  constructor
  · rintro ⟨h0, h1⟩
    exact ⟨fun hp => Nat.le_zero.mp (h0 hp), fun hz => by_contra fun hp => by have := h1 hp; omega⟩
  · intro hiff
    refine ⟨fun hp => by rw [hiff.mp hp], fun hp => ?_⟩
    have := mt hiff.mpr hp
    omega

theorem lazyAnchorValues_eq_ok {h n : Record} :
    lazyAnchorValues h = .ok n ↔ (∃ phase, LazyAccepted h phase) ∧ n = lazyNormal h := by
  simp only [lazyAnchorValues, bind_eq_ok, dieIf_eq_ok, pure_eq_ok, forEach_eq_ok,
    requireToken_eq_ok, token_eq_ok, checkOwner_eq_ok, put_apply, putInt_apply,
    reduceCtorEq, if_false, OwnerOk, text_put, text_putInt, Bool.not_eq_false',
    exists_const, Option.isNone_eq_false_iff, Option.isSome_iff_exists, decide_eq_false_iff_not,
    not_not, not_or, ne_eq]
  constructor
  · rintro ⟨htok, _, ⟨hop, rfl⟩, hopr, _, ⟨hph, rfl⟩, ⟨phase, hphr⟩, htx, hpol, hzero, hsnap,
      ⟨hso, hon, hnh⟩, hgen, hreg, hbytes, hpub, hown, u, hpubc, rfl⟩
    rw [checkPublication_eq_ok (h := h) (by simp [text]) hpub] at hpubc
    simp only [hphr, Option.getD_some] at hown hpubc
    exact ⟨⟨phase, ⟨htok, hop, hopr, hph, hphr, htx, hpol, hzero, hsnap, hso, hon, hnh, hgen, hreg,
      hbytes, hpub, hown, hpubc⟩⟩, rfl⟩
  · rintro ⟨⟨phase, ha⟩, rfl⟩
    have hphr : PhaseV6.ofText? (uc (body ((h .phase).getD ""))) = some phase := ha.phaseRead
    refine ⟨ha.tokens, _, ⟨ha.opToken, rfl⟩, ha.opRead, _, ⟨ha.phaseToken, rfl⟩, ⟨phase, hphr⟩,
      ha.tx, ha.policy, ha.zeroSource, ha.snapshot, ⟨ha.sourceOld, ha.oldNew, ha.newHead⟩,
      ha.generation, ha.region, ha.bytes, ha.publication, ?_, (), ?_, rfl⟩
    · simp only [hphr, Option.getD_some]
      exact ha.owner
    · rw [checkPublication_eq_ok (h := h) (by simp [text]) ha.publication]
      simp only [hphr, Option.getD_some]
      exact ha.published

/-! ## Versions -/

theorem putDefault_apply {h : Record} {f g : Field} {s : String} :
    putDefault h f s g = if g = f then some ((h f).getD s) else h g := by
  by_cases hg : g = f
  · subst hg
    cases hf : h g <;> simp [putDefault, hf]
  · cases hf : h f <;> simp [putDefault, hf, hg]

@[simp] theorem text_putDefault {h : Record} {f g : Field} {s : String} :
    text (putDefault h f s) g = if g = f then (h f).getD s else text h g := by
  by_cases hg : g = f
  · subst hg
    simp [text, putDefault_apply]
  · simp [text, putDefault_apply, hg]

/-- The version an anchor is read with; an absent one means 5. -/
def versionOf (h : Record) : String := (h .v).getD "5"

theorem anchorFields_eq_ok {version : String} {fields : List Field} :
    anchorFields version = .ok fields ↔
      (version = "5" ∧ fields = anchorFieldsV5) ∨ (version = "6" ∧ fields = anchorFieldsV6) := by
  simp only [anchorFields]
  split_ifs with h5 h6
  · subst h5
    simp [eq_comm]
  · subst h6
    simp [eq_comm]
  · simp [h5, h6]

theorem HeadOk.congr {h k : Record} {phase : PhaseV5} (hh : text k .head = text h .head)
    (ho : text k .old = text h .old) (hn : text k .new = text h .new) (hk : HeadOk phase h) :
    HeadOk phase k := by
  simpa only [HeadOk, hh, ho, hn] using hk

theorem OperationOk.congr {h k : Record} {op : Operation}
    (hk : ∀ f ∈ [Field.snapshot, .source, .old, .new, .head], text k f = text h f)
    (ha : OperationOk op h) : OperationOk op k := by
  simp only [List.mem_cons, List.not_mem_nil, or_false, forall_eq_or_imp, forall_eq] at hk
  obtain ⟨h1, h2, h3, h4, h5⟩ := hk
  simpa only [OperationOk, h1, h2, h3, h4, h5] using ha

theorem OwnerOk.congr {h k : Record} {phase : PhaseV6}
    (hk : ∀ f ∈ [Field.ownerNode, .ownerBoot, .ownerEpoch], k f = h f)
    (ha : OwnerOk phase h) : OwnerOk phase k := by
  simp only [List.mem_cons, List.not_mem_nil, or_false, forall_eq_or_imp, forall_eq] at hk
  obtain ⟨h1, h2, h3⟩ := hk
  simpa only [OwnerOk, text, h1, h2, h3] using ha

/-- Acceptance of an anchor does not depend on how its version is spelled. -/
theorem EagerAccepted.congr {h k : Record} {phase : PhaseV5} {op : Operation}
    (hk : ∀ f ≠ Field.v, k f = h f) (ha : EagerAccepted h phase op) : EagerAccepted k phase op := by
  have ht : ∀ f ≠ Field.v, text k f = text h f := fun f hf => by simp [text, hk f hf]
  exact {
    tokens := fun f hf => by
      rw [ht f (by rintro rfl; revert hf; decide)]
      exact ha.tokens f hf
    opToken := by rw [ht _ (by decide)]; exact ha.opToken
    opRead := by rw [operationOf, ht _ (by decide)]; exact ha.opRead
    phaseToken := by rw [ht _ (by decide)]; exact ha.phaseToken
    phaseRead := by rw [phaseOfV5, ht _ (by decide)]; exact ha.phaseRead
    tx := by rw [hk _ (by decide)]; exact ha.tx
    generation := by rw [hk _ (by decide)]; exact ha.generation
    region := by rw [hk _ (by decide)]; exact ha.region
    headOk := ha.headOk.congr (ht _ (by decide)) (ht _ (by decide)) (ht _ (by decide))
    operationOk := ha.operationOk.congr fun f hf => ht f (by rintro rfl; revert hf; decide) }

theorem LazyAccepted.congr {h k : Record} {phase : PhaseV6}
    (hk : ∀ f ≠ Field.v, k f = h f) (ha : LazyAccepted h phase) : LazyAccepted k phase := by
  have ht : ∀ f ≠ Field.v, text k f = text h f := fun f hf => by simp [text, hk f hf]
  exact {
    tokens := fun f hf => by
      rw [ht f (by rintro rfl; revert hf; decide)]
      exact ha.tokens f hf
    opToken := by rw [ht _ (by decide)]; exact ha.opToken
    opRead := by rw [ht _ (by decide)]; exact ha.opRead
    phaseToken := by rw [ht _ (by decide)]; exact ha.phaseToken
    phaseRead := by rw [phaseOfV6, ht _ (by decide)]; exact ha.phaseRead
    tx := by rw [hk _ (by decide)]; exact ha.tx
    policy := by rw [ht _ (by decide)]; exact ha.policy
    zeroSource := by rw [ht _ (by decide)]; exact ha.zeroSource
    snapshot := by rw [ht _ (by decide)]; exact ha.snapshot
    sourceOld := by rw [ht _ (by decide), ht _ (by decide)]; exact ha.sourceOld
    oldNew := by rw [ht _ (by decide), ht _ (by decide)]; exact ha.oldNew
    newHead := by rw [ht _ (by decide), ht _ (by decide)]; exact ha.newHead
    generation := by rw [hk _ (by decide)]; exact ha.generation
    region := by rw [hk _ (by decide)]; exact ha.region
    bytes := by rw [hk _ (by decide)]; exact ha.bytes
    publication := by rw [hk _ (by decide)]; exact ha.publication
    owner := ha.owner.congr fun f hf => hk f (by rintro rfl; revert hf; decide)
    published := by rw [numberOf, ht _ (by decide)]; exact ha.published }

theorem anchorValues_eq_ok {h : Record} {fields : List Field} {n : Record} :
    anchorValues h = .ok (fields, n) ↔
      (versionOf h = "5" ∧ fields = anchorFieldsV5 ∧ (∃ phase op, EagerAccepted h phase op) ∧
        n = eagerNormal (putDefault h .v "5")) ∨
      (versionOf h = "6" ∧ fields = anchorFieldsV6 ∧ (∃ phase, LazyAccepted h phase) ∧
        n = lazyNormal (putDefault h .v "5")) := by
  have hv : text (putDefault h .v "5") .v = versionOf h := by simp [versionOf]
  have hto : ∀ f ≠ Field.v, putDefault h .v "5" f = h f := fun f hf => by
    simp [putDefault_apply, hf]
  have hfrom : ∀ f ≠ Field.v, h f = putDefault h .v "5" f := fun f hf => (hto f hf).symm
  simp only [anchorValues, versionValues, bind_eq_ok, pure_eq_ok, hv, anchorFields_eq_ok, Prod.mk.injEq]
  constructor
  · rintro ⟨fs, ⟨h5, rfl⟩ | ⟨h6, rfl⟩, m, hm, rfl, rfl⟩
    · rw [if_neg (by rw [h5]; decide), eagerAnchorValues_eq_ok] at hm
      obtain ⟨⟨phase, op, ha⟩, rfl⟩ := hm
      exact Or.inl ⟨h5, rfl, ⟨phase, op, ha.congr hfrom⟩, rfl⟩
    · rw [if_pos h6, lazyAnchorValues_eq_ok] at hm
      obtain ⟨⟨phase, ha⟩, rfl⟩ := hm
      exact Or.inr ⟨h6, rfl, ⟨phase, ha.congr hfrom⟩, rfl⟩
  · rintro (⟨h5, rfl, ⟨phase, op, ha⟩, rfl⟩ | ⟨h6, rfl, ⟨phase, ha⟩, rfl⟩)
    · refine ⟨_, Or.inl ⟨h5, rfl⟩, _, ?_, rfl, rfl⟩
      rw [if_neg (by rw [h5]; decide), eagerAnchorValues_eq_ok]
      exact ⟨⟨phase, op, ha.congr hto⟩, rfl⟩
    · refine ⟨_, Or.inr ⟨h6, rfl⟩, _, ?_, rfl, rfl⟩
      rw [if_pos h6, lazyAnchorValues_eq_ok]
      exact ⟨⟨phase, ha.congr hto⟩, rfl⟩

/-! ## The other families -/

structure GenerationAccepted (h : Record) : Prop where
  tokens : ∀ f ∈ [Field.sid, .vol, .role], isToken (text h f) = true
  role : body (text h .role) ∈ ["head", "snapshot"]
  generation : badGeneration (h .generation) = false
  named : text h .role = "snapshot" → isToken (text h .snapshot) = true
  unnamed : text h .role ≠ "snapshot" → h .snapshot = none

def generationFields (h : Record) : List Field :=
  [.v, .sid, .vol, .role, .generation] ++ if text h .role = "snapshot" then [.snapshot] else []

theorem generationValues_eq_ok {h n : Record} {fields : List Field} :
    generationValues h = .ok (fields, n) ↔
      GenerationAccepted h ∧ fields = generationFields h ∧
        n = putInt (put h .v "1") .generation := by
  simp only [generationValues, bind_eq_ok, dieIf_eq_ok, forEach_eq_ok, requireToken_eq_ok,
    exists_const, decide_eq_false_iff_not, not_not]
  constructor
  · rintro ⟨htok, hrole, hgen, hrest⟩
    split_ifs at hrest with hsnap
    · simp only [bind_eq_ok, requireToken_eq_ok, pure_eq_ok, exists_const, Prod.mk.injEq] at hrest
      obtain ⟨hname, rfl, rfl⟩ := hrest
      exact ⟨⟨htok, hrole, hgen, fun _ => hname, fun hne => absurd hsnap hne⟩,
        by rw [generationFields, if_pos hsnap], rfl⟩
    · simp only [bind_eq_ok, dieIf_eq_ok, pure_eq_ok, exists_const, Prod.mk.injEq,
        Option.isSome_eq_false_iff, Option.isNone_iff_eq_none] at hrest
      obtain ⟨hnone, rfl, rfl⟩ := hrest
      exact ⟨⟨htok, hrole, hgen, fun he => absurd he hsnap, fun _ => hnone⟩,
        by rw [generationFields, if_neg hsnap, List.append_nil], rfl⟩
  · rintro ⟨ha, rfl, rfl⟩
    refine ⟨ha.tokens, ha.role, ha.generation, ?_⟩
    split_ifs with hsnap
    · simp only [bind_eq_ok, requireToken_eq_ok, pure_eq_ok, exists_const, Prod.mk.injEq]
      exact ⟨ha.named hsnap, by rw [generationFields, if_pos hsnap], trivial⟩
    · simp only [bind_eq_ok, dieIf_eq_ok, pure_eq_ok, exists_const, Prod.mk.injEq,
        Option.isSome_eq_false_iff, Option.isNone_iff_eq_none]
      exact ⟨ha.unnamed hsnap, by rw [generationFields, if_neg hsnap, List.append_nil], trivial⟩

structure LazyObjectAccepted (h : Record) : Prop where
  version : (h .v).getD "1" = "1"
  tokens : ∀ f ∈ [Field.sid, .vol, .kind], isToken (text h f) = true
  kind : text h .kind = "data" ∨ text h .kind = "metadata"
  tx : isTx (h .tx) = true
  bytes : badBytes (h .bytes) = false
  region : badRegion (h .region) = false

def lazyObjectFields : List Field := [.v, .sid, .vol, .tx, .kind, .bytes, .region]

theorem lazyObjectValues_eq_ok {h n : Record} {fields : List Field} :
    lazyObjectValues h = .ok (fields, n) ↔
      LazyObjectAccepted h ∧ fields = lazyObjectFields ∧
        n = putInt (putInt (putDefault h .v "1") .bytes) .region := by
  simp only [lazyObjectValues, bind_eq_ok, dieIf_eq_ok, forEach_eq_ok, pure_eq_ok, exists_const,
    decide_eq_false_iff_not, not_not, Prod.mk.injEq, ne_eq,
    text_putDefault, if_true, putDefault_apply, reduceCtorEq, if_false, Bool.not_eq_false',
    not_and_or, lazyObjectFields, @eq_comm _ fields, @eq_comm _ n]
  constructor
  · rintro ⟨hv, htok, hkind, htx, hbytes, hregion, hf, hn⟩
    refine ⟨⟨hv, fun f hf => ?_, hkind, htx, hbytes, hregion⟩, hf, hn⟩
    have := htok f hf
    rwa [if_neg (by rintro rfl; revert hf; decide), requireToken_eq_ok] at this
  · rintro ⟨ha, hf, hn⟩
    refine ⟨ha.version, fun f hf => ?_, ha.kind, ha.tx, ha.bytes, ha.region, hf, hn⟩
    rw [if_neg (by rintro rfl; revert hf; decide), requireToken_eq_ok]
    exact ha.tokens f hf

structure TransitionAccepted (h : Record) : Prop where
  version : (h .v).getD "1" = "1"
  tokens : ∀ f ∈ [Field.sid, .vol, .kind], isToken (text h f) = true
  kind : text h .kind = "metadata"
  tx : isTx (h .tx) = true
  generation : badGeneration (h .generation) = false
  region : badRegion (h .region) = false

def transitionFields : List Field := [.v, .sid, .vol, .tx, .kind, .generation, .region]

theorem transitionValues_eq_ok {h n : Record} {fields : List Field} :
    transitionValues h = .ok (fields, n) ↔
      TransitionAccepted h ∧ fields = transitionFields ∧ n = putDefault h .v "1" := by
  simp only [transitionValues, bind_eq_ok, dieIf_eq_ok, forEach_eq_ok, requireToken_eq_ok,
    pure_eq_ok, exists_const, decide_eq_false_iff_not, not_not, Prod.mk.injEq, ne_eq,
    text_putDefault, if_true, Bool.not_eq_false', transitionFields, @eq_comm _ fields,
    @eq_comm _ n]
  constructor
  · rintro ⟨htok, hkind, htx, hgen, hregion, hv, hf, hn⟩
    exact ⟨⟨hv, htok, hkind, htx, hgen, hregion⟩, hf, hn⟩
  · rintro ⟨ha, hf, hn⟩
    exact ⟨ha.tokens, ha.kind, ha.tx, ha.generation, ha.region, ha.version, hf, hn⟩

structure VgIntentAccepted (h : Record) : Prop where
  version : body ((h .v).getD "1") = "1"
  tx : isTx (h .tx) = true
  state : body (text h .state) = "OPEN"
  op : body (text h .op) ∈ intentOperations
  object : isToken (text h .object) = true
  before : isBeforeDigest (text h .before) = true

def vgIntentFields : List Field := [.v, .tx, .state, .op, .object, .before]

def vgIntentNormal (h : Record) : Record :=
  put (put (put (put (put (put (putDefault h .v "1") .v (body ((h .v).getD "1"))) .tx
    (body (text h .tx))) .state (body (text h .state))) .op (body (text h .op))) .object
    (body (text h .object))) .before (body (text h .before))

theorem vgIntentValues_eq_ok {h n : Record} {fields : List Field} :
    vgIntentValues h = .ok (fields, n) ↔
      VgIntentAccepted h ∧ fields = vgIntentFields ∧ n = vgIntentNormal h := by
  simp only [vgIntentValues, bind_eq_ok, dieIf_eq_ok, token_eq_ok, pure_eq_ok, exists_const,
    decide_eq_false_iff_not, not_not, Prod.mk.injEq, ne_eq, text_putDefault, text_put, put_apply,
    putDefault_apply, if_true, reduceCtorEq, if_false, Bool.not_eq_false', vgIntentFields,
    @eq_comm _ fields, @eq_comm _ n]
  constructor
  · rintro ⟨hv, htx, hstate, hop, _, ⟨hobj, rfl⟩, hbefore, hf, hn⟩
    exact ⟨⟨hv, htx, hstate, hop, hobj, hbefore⟩, hf, hn⟩
  · rintro ⟨ha, hf, hn⟩
    exact ⟨ha.version, ha.tx, ha.state, ha.op, _, ⟨ha.object, rfl⟩, ha.before, hf, hn⟩

end SharedLvmThin.Thick
