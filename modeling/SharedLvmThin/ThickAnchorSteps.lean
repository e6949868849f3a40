import SharedLvmThin.ThickTransition

/-!
# What an accepted anchor step can do

Acceptance by `anchor_tags` is characterised on the given values, and each accepted
step of either version is inverted into one of a few effects. Every law about runs
is derived from these effects.
-/

namespace SharedLvmThin.Thick
open Perl TagCodec

def Accepted (h : Record) : Prop := ∃ tags, anchorTags h = .ok tags

/-! ## Characters of accepted values -/

theorem isTokenChar_ascii {c : Char} (h : isTokenChar c = true) : c.toNat < 128 := by
  rcases isTokenChar_cases h with h | rfl | rfl | rfl
  · exact word_ascii h
  all_goals decide

theorem isLowerHex_token {c : Char} (h : isLowerHex c = true) : isTokenChar c = true := by
  simp only [isLowerHex, Bool.or_eq_true, Bool.and_eq_true, decide_eq_true_eq] at h
  simp only [isTokenChar, Char.isAlphanum, Bool.or_eq_true]
  rcases h with h | h
  · exact Or.inl (Or.inr h)
  · have hlower : c.isLower = true :=
      (Bool.and_eq_true _ _).mpr ⟨decide_eq_true h.1, decide_eq_true (le_trans h.2 (by decide))⟩
    exact Or.inl (Or.inl ((Bool.or_eq_true _ _).mpr (Or.inr hlower)))

/-- Characters of a value that a token or transaction pattern let through. -/
def Plain (s : String) : Prop := ∀ c ∈ s.toList, isTokenChar c = true ∨ c = '\n'

theorem plain_of_isToken {s : String} (h : isToken s = true) : Plain s :=
  fun _ hc => mem_of_body (plus_iff.mp h).2 hc

theorem plain_of_isTx {h : Record} {f : Field} (htx : isTx (h f) = true) :
    h f = some (text h f) ∧ Plain (text h f) := by
  cases hf : h f with
  | none => simp [isTx, hf] at htx
  | some s =>
    have ht : text h f = s := by simp [text, hf]
    rw [hf, isTx, exactly_iff] at htx
    rw [ht]
    exact ⟨rfl, fun c hc => (mem_of_body htx.2 hc).imp_left isLowerHex_token⟩

theorem Plain.no_bar {s : String} (h : Plain s) : '|' ∉ s.toList := by
  intro hc
  rcases h _ hc with h | h <;> exact absurd h (by decide)

theorem Plain.latin1 {s : String} (h : Plain s) : ∀ c ∈ s.toList, c.toNat < 256 := by
  intro c hc
  rcases h c hc with h | rfl
  · exact lt_trans (isTokenChar_ascii h) (by decide)
  · decide

theorem isDigits_no_bar {s : String} (h : isDigits s = true) : '|' ∉ s.toList := by
  intro hc
  rcases mem_of_body (plus_iff.mp h).2 hc with h | h <;> exact absurd h (by decide)

theorem uc_body_latin1 {s : String} (h : isToken s = true) :
    ∀ c ∈ (uc (body s)).toList, c.toNat < 256 := by
  intro c hc
  rw [toList_uc] at hc
  obtain ⟨d, hd, rfl⟩ := List.mem_map.mp hc
  exact lt_trans (toUpper_ascii (isTokenChar_ascii ((plus_iff.mp h).2 d hd))) (by decide)

theorem numText_latin1 (x : Perl.Num) : ∀ c ∈ x.text.toList, c.toNat < 256 :=
  fun c hc => lt_trans (x.text_ascii c hc) (by decide)

theorem defined_of_badNumber {h : Record} {f : Field} {bad : Perl.Num → Bool}
    (hb : badNumber (h f) bad = false) : h f = some (text h f) ∧ isDigits (text h f) = true := by
  obtain ⟨s, hs, hd, -⟩ := badNumber_eq_false.mp hb
  have ht : text h f = s := by simp [text, hs]
  rw [ht]
  exact ⟨hs, hd⟩

/-- A field that is given and free of the separator of canonical texts. -/
def Defined (h : Record) (f : Field) : Prop := h f = some (text h f) ∧ '|' ∉ (text h f).toList

theorem Defined.of_isToken {h : Record} {f : Field} (ht : isToken (text h f) = true) :
    Defined h f :=
  ⟨some_of_isToken ht, (plain_of_isToken ht).no_bar⟩

theorem Defined.of_isTx {h : Record} {f : Field} (htx : isTx (h f) = true) : Defined h f :=
  ⟨(plain_of_isTx htx).1, (plain_of_isTx htx).2.no_bar⟩

theorem Defined.of_badNumber {h : Record} {f : Field} {bad : Perl.Num → Bool}
    (hb : badNumber (h f) bad = false) : Defined h f :=
  ⟨(defined_of_badNumber hb).1, isDigits_no_bar (defined_of_badNumber hb).2⟩

theorem mem_anchorFieldsV5_cases {f : Field} (hf : f ∈ anchorFieldsV5) :
    f = .v ∨ f ∈ eagerTokenFields ∨ f = .op ∨ f = .phase ∨ f = .tx ∨ f = .generation ∨
      f = .region := by
  revert hf
  cases f <;> decide

theorem mem_anchorFieldsV6_cases {f : Field} (hf : f ∈ anchorFieldsV6) :
    f = .v ∨ f ∈ lazyTokenFields ∨ f = .op ∨ f = .phase ∨ f = .tx ∨ f = .generation ∨
      f = .region ∨ f = .bytes ∨ f = .publication := by
  revert hf
  cases f <;> decide

section
variable {h : Record} {phase : PhaseV5} {op : Operation}

theorem EagerAccepted.defined (ha : EagerAccepted h phase op) {f : Field}
    (hf : f ∈ anchorFieldsV5) (hv : f ≠ .v) : Defined h f := by
  rcases mem_anchorFieldsV5_cases hf with rfl | ht | rfl | rfl | rfl | rfl | rfl
  · exact absurd rfl hv
  · exact .of_isToken (ha.tokens f ht)
  · exact .of_isToken ha.opToken
  · exact .of_isToken ha.phaseToken
  · exact .of_isTx ha.tx
  · exact .of_badNumber ha.generation
  · exact .of_badNumber ha.region

theorem eagerNormal_token {f : Field} (hf : f ∈ eagerTokenFields) :
    text (eagerNormal (putDefault h .v "5")) f = text h f := by
  revert hf
  cases f <;> simp [eagerTokenFields, eagerNormal]

theorem EagerAccepted.normal_latin1 (ha : EagerAccepted h phase op) (hv : versionOf h = "5")
    {f : Field} (hf : f ∈ anchorFieldsV5) :
    ∀ c ∈ (text (eagerNormal (putDefault h .v "5")) f).toList, c.toNat < 256 := by
  have hv' : (h .v).getD "5" = "5" := hv
  rcases mem_anchorFieldsV5_cases hf with rfl | ht | hf
  · simp only [eagerNormal, text_putInt, text_put, text_putDefault, reduceCtorEq, if_false, if_true]
    rw [hv']
    exact toNat_lt_of_all (by decide)
  · rw [eagerNormal_token ht]
    exact (plain_of_isToken (ha.tokens f ht)).latin1
  · rcases hf with rfl | rfl | rfl | rfl | rfl <;>
      simp only [eagerNormal, text_putInt, text_put, text_putDefault, reduceCtorEq, if_false,
        if_true]
    · exact uc_body_latin1 ha.opToken
    · exact uc_body_latin1 ha.phaseToken
    · exact (plain_of_isTx ha.tx).2.latin1
    · exact numText_latin1 _
    · exact numText_latin1 _

end

section
variable {h : Record} {phase : PhaseV6}

theorem LazyAccepted.defined (ha : LazyAccepted h phase) {f : Field}
    (hf : f ∈ anchorFieldsV6) (hv : f ≠ .v) : Defined h f := by
  rcases mem_anchorFieldsV6_cases hf with rfl | ht | rfl | rfl | rfl | rfl | rfl | rfl | rfl
  · exact absurd rfl hv
  · exact .of_isToken (ha.tokens f ht)
  · exact .of_isToken ha.opToken
  · exact .of_isToken ha.phaseToken
  · exact .of_isTx ha.tx
  · exact .of_badNumber ha.generation
  · exact .of_badNumber ha.region
  · exact .of_badNumber ha.bytes
  · exact .of_badNumber ha.publication

theorem lazyNormal_token {f : Field} (hf : f ∈ lazyTokenFields) :
    text (lazyNormal (putDefault h .v "5")) f = text h f := by
  revert hf
  cases f <;> simp [lazyTokenFields, lazyNormal]

theorem LazyAccepted.normal_latin1 (ha : LazyAccepted h phase) (hv : versionOf h = "6")
    {f : Field} (hf : f ∈ anchorFieldsV6) :
    ∀ c ∈ (text (lazyNormal (putDefault h .v "5")) f).toList, c.toNat < 256 := by
  have hv' : (h .v).getD "5" = "6" := hv
  rcases mem_anchorFieldsV6_cases hf with rfl | ht | hf
  · simp only [lazyNormal, text_putInt, text_put, text_putDefault, reduceCtorEq, if_false, if_true]
    rw [hv']
    exact toNat_lt_of_all (by decide)
  · rw [lazyNormal_token ht]
    exact (plain_of_isToken (ha.tokens f ht)).latin1
  · rcases hf with rfl | rfl | rfl | rfl | rfl | rfl | rfl <;>
      simp only [lazyNormal, text_putInt, text_put, text_putDefault, reduceCtorEq, if_false,
        if_true]
    · exact uc_body_latin1 ha.opToken
    · exact uc_body_latin1 ha.phaseToken
    · exact (plain_of_isTx ha.tx).2.latin1
    all_goals exact numText_latin1 _

end

theorem digest_isOk {A : Alphabet Field} {fields : List Field} {h : Record}
    (hl : ∀ c ∈ (A.canonical fields h).toList, c.toNat < 256) :
    ∃ digest, A.digest fields h = .ok digest := by
  obtain ⟨hex, hhex⟩ := Sha256.sha256Hex_isOk hl
  exact ⟨_, by simp only [Alphabet.digest, hhex]; rfl⟩

theorem signedTags_isOk {S : Family Field} {fields : List Field} {h : Record}
    (hl : ∀ f ∈ fields, ∀ c ∈ (text h f).toList, c.toNat < 256) :
    ∃ tags, S.signedTags .sha256 fields h = .ok tags := by
  obtain ⟨digest, hd⟩ := digest_isOk (canonical_latin1 S hl)
  exact ⟨_, by simp only [Family.signedTags, hd]; rfl⟩

theorem accepted_iff_eager {h : Record} (hv : versionOf h = "5") :
    Accepted h ↔ ∃ phase op, EagerAccepted h phase op := by
  simp only [Accepted, anchorTags, bind_eq_ok, Prod.exists]
  constructor
  · rintro ⟨_, fields, n, hval, -⟩
    rcases anchorValues_eq_ok.mp hval with ⟨-, -, ha, -⟩ | ⟨h6, -, -, -⟩
    · exact ha
    · rw [hv] at h6
      exact absurd h6 (by decide)
  · rintro ⟨phase, op, ha⟩
    obtain ⟨tags, htags⟩ := signedTags_isOk (S := anchorFamily)
      (fun f hf => ha.normal_latin1 hv hf)
    exact ⟨tags, _, _, anchorValues_eq_ok.mpr (Or.inl ⟨hv, rfl, ⟨phase, op, ha⟩, rfl⟩), htags⟩

theorem accepted_iff_lazy {h : Record} (hv : versionOf h = "6") :
    Accepted h ↔ ∃ phase, LazyAccepted h phase := by
  simp only [Accepted, anchorTags, bind_eq_ok, Prod.exists]
  constructor
  · rintro ⟨_, fields, n, hval, -⟩
    rcases anchorValues_eq_ok.mp hval with ⟨h5, -, -, -⟩ | ⟨-, -, ha, -⟩
    · rw [hv] at h5
      exact absurd h5 (by decide)
    · exact ha
  · rintro ⟨phase, ha⟩
    obtain ⟨tags, htags⟩ := signedTags_isOk (S := anchorFamily)
      (fun f hf => ha.normal_latin1 hv hf)
    exact ⟨tags, _, _, anchorValues_eq_ok.mpr (Or.inr ⟨hv, rfl, ⟨phase, ha⟩, rfl⟩), htags⟩

theorem versionOf_cases {h : Record} (ha : Accepted h) : versionOf h = "5" ∨ versionOf h = "6" := by
  obtain ⟨tags, ht⟩ := ha
  simp only [anchorTags, bind_eq_ok, Prod.exists] at ht
  obtain ⟨fields, n, hval, -⟩ := ht
  rcases anchorValues_eq_ok.mp hval with ⟨h5, -⟩ | ⟨h6, -⟩
  · exact Or.inl h5
  · exact Or.inr h6

/-- Signing never fails: an anchor that passes the checks is accepted. -/
theorem accepted_of_values {h : Record} (hok : (anchorValues h).isOk = true) : Accepted h := by
  cases hval : anchorValues h with
  | error e => simp [hval, Except.isOk, Except.toBool] at hok
  | ok r =>
    rcases anchorValues_eq_ok.mp (hval : anchorValues h = .ok (r.1, r.2)) with
      ⟨h5, -, ha, -⟩ | ⟨h6, -, ha, -⟩
    · exact (accepted_iff_eager h5).mpr ha
    · exact (accepted_iff_lazy h6).mpr ha

theorem validate_of_values {before after : Record} (hb : (anchorValues before).isOk = true)
    (ha : (anchorValues after).isOk = true) (hv : text before .v = text after .v)
    (hval : validateVersionTransition before after = .ok ()) :
    validateAnchorTransition before after = .ok () := by
  obtain ⟨tb, htb⟩ := accepted_of_values hb
  obtain ⟨ta, hta⟩ := accepted_of_values ha
  simp only [validateAnchorTransition, bind_eq_ok, dieIf_eq_ok, decide_eq_false_iff_not, not_not,
    ne_eq, exists_const]
  exact ⟨tb, htb, ta, hta, hv, hval⟩

/-- Two accepted anchors whose versions print alike have the same version. -/
theorem version_eq_of_text {h k : Record} (hh : Accepted h) (hk : Accepted k)
    (ht : text k .v = text h .v) : k .v = h .v := by
  have hne : ∀ r : Record, Accepted r → r .v ≠ some "" := by
    intro r hr h0
    rcases versionOf_cases hr with h | h <;> simp [versionOf, h0] at h
  cases hv : h .v with
  | none =>
    cases kv : k .v with
    | none => rfl
    | some w =>
      simp only [text, hv, kv, Option.getD_none, Option.getD_some] at ht
      exact absurd (by rw [kv, ht]) (hne k hk)
  | some w =>
    cases kv : k .v with
    | none =>
      simp only [text, hv, kv, Option.getD_none, Option.getD_some] at ht
      exact absurd (by rw [hv, ← ht]) (hne h hh)
    | some x =>
      simp only [text, hv, kv, Option.getD_some] at ht
      rw [ht]

/-! ## Phases and operations as spelled -/

theorem PhaseV5.ofText?_eq_some {s : String} {p : PhaseV5} :
    PhaseV5.ofText? s = some p ↔ s = p.text := by
  constructor
  · intro h
    have := List.find?_some h
    simpa [eq_comm] using this
  · rintro rfl
    cases p <;> decide

theorem PhaseV6.ofText?_eq_some {s : String} {p : PhaseV6} :
    PhaseV6.ofText? s = some p ↔ s = p.text := by
  constructor
  · intro h
    have := List.find?_some h
    simpa [eq_comm] using this
  · rintro rfl
    cases p <;> decide

theorem Operation.ofText?_eq_some {s : String} {o : Operation} :
    Operation.ofText? s = some o ↔ s = o.text := by
  constructor
  · intro h
    have := List.find?_some h
    simpa [eq_comm] using this
  · rintro rfl
    cases o <;> decide

theorem PhaseV5.text_injective {p q : PhaseV5} (h : p.text = q.text) : p = q := by
  have := PhaseV5.ofText?_eq_some.mpr h
  rwa [PhaseV5.ofText?_eq_some.mpr rfl, Option.some.injEq] at this

theorem PhaseV6.text_injective {p q : PhaseV6} (h : p.text = q.text) : p = q := by
  have := PhaseV6.ofText?_eq_some.mpr h
  rwa [PhaseV6.ofText?_eq_some.mpr rfl, Option.some.injEq] at this

theorem body_of_uc_eq {s t : String} (hs : uc s = t) (ht : ¬ EndsInNewline t) : body s = s :=
  body_eq_self fun h => ht (hs ▸ uc_endsInNewline h)

theorem PhaseV5.text_no_newline (p : PhaseV5) : ¬ EndsInNewline p.text := by
  cases p <;> decide

theorem PhaseV6.text_no_newline (p : PhaseV6) : ¬ EndsInNewline p.text := by
  cases p <;> decide

theorem phaseOfV5_of_uc {h : Record} {p : PhaseV5} (hp : uc (text h .phase) = p.text) :
    phaseOfV5 h = some p := by
  rw [phaseOfV5, body_of_uc_eq hp p.text_no_newline, PhaseV5.ofText?_eq_some, hp]

theorem phaseOfV6_of_text {h : Record} {p : PhaseV6} (hp : text h .phase = p.text) :
    phaseOfV6 h = some p := by
  rw [phaseOfV6, hp, body_eq_self p.text_no_newline, PhaseV6.ofText?_eq_some]
  cases p <;> decide

/-! ## Accepted steps -/

/-- The listed fields print alike before and after. -/
def Keeps (fields : List Field) (before after : Record) : Prop :=
  ∀ f ∈ fields, text after f = text before f

@[simp] theorem unchanged_eq_ok {what : String} {before after : Record} {f : Field} {u : Unit} :
    unchanged what before after f = .ok u ↔ text after f = text before f := by
  rw [eq_comm (a := text after f)]
  simp [unchanged]

theorem sameCanonical_eq_ok {message : String} {before after : Record} {u : Unit}
    (hv : text after .v = text before .v)
    (hbar : ∀ fields, anchorFields (text before .v) = .ok fields →
      ∀ f ∈ fields, '|' ∉ (text before f).toList ∧ '|' ∉ (text after f).toList) :
    sameCanonical message before after = .ok u ↔
      ∃ fields, anchorFields (text before .v) = .ok fields ∧ Keeps fields before after := by
  simp only [sameCanonical, canonical, hv, bind_eq_ok, pure_eq_ok, dieIf_eq_ok,
    decide_eq_false_iff_not, not_not, ne_eq]
  constructor
  · rintro ⟨_, ⟨fields, hf, rfl⟩, _, ⟨fields', hf', rfl⟩, heq⟩
    obtain rfl : fields = fields' := by rw [hf, Except.ok.injEq] at hf'; exact hf'
    have hne : fields ≠ [] := by
      rcases anchorFields_eq_ok.mp hf with ⟨-, rfl⟩ | ⟨-, rfl⟩ <;> decide
    have hinj := canonical_injective anchorFamily hne hne (fun f h => (hbar _ hf f h).1)
      (fun f h => (hbar _ hf f h).2) heq
    exact ⟨fields, hf, fun f h => (hinj.2 f h).symm⟩
  · rintro ⟨fields, hf, hk⟩
    refine ⟨_, ⟨fields, hf, rfl⟩, _, ⟨fields, hf, rfl⟩, ?_⟩
    simp only [Alphabet.canonical]
    congr 1
    exact List.map_congr_left fun f h => by rw [hk f h]

/-- Effect of an allowed version 5 phase change, beyond `v`, `sid` and `vol`. -/
def EagerMove (p q : PhaseV5) (before after : Record) : Prop :=
  match p, q with
  | .materialized, .prepared =>
    text after .tx ≠ text before .tx ∧ text after .old = text before .head ∧
      text after .head = text before .head ∧ text after .new ≠ text before .head ∧
      numberOf after .generation = numberOf before .generation
  | .sourceReady, .committed =>
    Keeps transactionFields before after ∧ text before .head = text before .old ∧
      text after .head = text after .new ∧
      numberOf after .generation = numberOf before .generation + 1
  | .prepared, .materialized =>
    Keeps transactionFields before after ∧ text before .op = "ALLOC" ∧
      text before .source = text before .old ∧ text before .old = text before .new ∧
      text before .head = text before .old ∧ text after .head = text before .head ∧
      numberOf after .generation = numberOf before .generation
  | _, _ =>
    Keeps transactionFields before after ∧ text after .head = text before .head ∧
      numberOf after .generation = numberOf before .generation

theorem checkMove_eq_ok {p q : PhaseV5} {before after : Record} {u : Unit}
    (hpq : allowedTransition p q = true) :
    (checkTransaction p.text q.text before after >>= fun _ =>
      checkAuthority p.text q.text before after) = .ok u ↔ EagerMove p q before after := by
  cases p <;> cases q <;> first
    | exact absurd hpq (by decide)
    | simp [checkTransaction, checkAuthority, EagerMove, Keeps, PhaseV5.text]
  all_goals tauto

theorem allowedText_iff {s t : String} :
    allowedText s t = true ↔ ∃ p q : PhaseV5, s = p.text ∧ t = q.text ∧
      allowedTransition p q = true := by
  simp only [allowedText, ← PhaseV5.ofText?_eq_some]
  cases PhaseV5.ofText? s <;> cases PhaseV5.ofText? t <;> simp

/-- One accepted version 5 step: a repetition, or an allowed phase change with its effect. -/
inductive EagerStep (before after : Record) : Prop
  | same (hv : text before .v = "5") (hkeep : Keeps anchorFieldsV5 before after)
  | move (p q : PhaseV5) (hfrom : uc (text before .phase) = p.text)
      (hto : uc (text after .phase) = q.text) (hpq : allowedTransition p q = true)
      (hkeep : Keeps [.v, .sid, .vol] before after) (hmove : EagerMove p q before after)

theorem EagerAccepted.no_bar {h : Record} {phase : PhaseV5} {op : Operation}
    (ha : EagerAccepted h phase op) (hv : text h .v = "5") :
    ∀ f ∈ anchorFieldsV5, '|' ∉ (text h f).toList := by
  intro f hf
  by_cases h0 : f = .v
  · rw [h0, hv]
    decide
  · exact (ha.defined hf h0).2

theorem validateEager_eq_ok {before after : Record} {u : Unit} {pb pa : PhaseV5}
    {ob oa : Operation} (hb : EagerAccepted before pb ob) (ha : EagerAccepted after pa oa)
    (hv6 : text before .v ≠ "6") (hv : text after .v = text before .v) :
    validateEagerAnchorTransition before after = .ok u ↔ EagerStep before after := by
  have hbar : ∀ fields, anchorFields (text before .v) = .ok fields →
      ∀ f ∈ fields, '|' ∉ (text before f).toList ∧ '|' ∉ (text after f).toList := by
    intro fields hf f h
    rcases anchorFields_eq_ok.mp hf with ⟨h5, rfl⟩ | ⟨h6, -⟩
    · exact ⟨hb.no_bar h5 f h, ha.no_bar (hv.trans h5) f h⟩
    · exact absurd h6 hv6
  simp only [validateEagerAnchorTransition]
  split_ifs with hphase
  · rw [sameCanonical_eq_ok hv hbar]
    constructor
    · rintro ⟨fields, hf, hk⟩
      rcases anchorFields_eq_ok.mp hf with ⟨h5, rfl⟩ | ⟨h6, -⟩
      · exact .same h5 hk
      · exact absurd h6 hv6
    · rintro (⟨h5, hk⟩ | ⟨p, q, hp, hq, hpq, -, -⟩)
      · exact ⟨_, anchorFields_eq_ok.mpr (Or.inl ⟨h5, rfl⟩), hk⟩
      · obtain rfl := PhaseV5.text_injective (hp.symm.trans (hphase.trans hq))
        cases p <;> exact absurd hpq (by decide)
  · simp only [bind_eq_ok, dieIf_eq_ok, exists_const, Bool.not_eq_false', allowedText_iff,
      forEach_eq_ok, unchanged_eq_ok]
    constructor
    · rintro ⟨⟨p, q, hp, hq, hpq⟩, hkeep, hmove⟩
      rw [hp, hq, ← bind_eq_ok, checkMove_eq_ok hpq] at hmove
      exact .move p q hp hq hpq hkeep hmove
    · rintro (⟨h5, hk⟩ | ⟨p, q, hp, hq, hpq, hkeep, hmove⟩)
      · exact absurd (by rw [hk .phase (by decide)]) hphase
      · refine ⟨⟨p, q, hp, hq, hpq⟩, hkeep, ?_⟩
        rw [hp, hq, ← bind_eq_ok, checkMove_eq_ok hpq]
        exact hmove

theorem text_v_ne_six {h : Record} (hv : versionOf h = "5") : text h .v ≠ "6" := by
  intro h6
  cases hb : h .v <;> simp_all [versionOf, text]

theorem validate_eager_iff {before after : Record} {u : Unit} (hv : versionOf before = "5") :
    validateAnchorTransition before after = .ok u ↔
      Accepted before ∧ Accepted after ∧ text after .v = text before .v ∧
        EagerStep before after := by
  have hv6 := text_v_ne_six hv
  have hspec : ∀ hb : Accepted before, ∀ ha : Accepted after, text after .v = text before .v →
      (validateEagerAnchorTransition before after = .ok u ↔ EagerStep before after) := by
    intro hb ha ht
    have hva := version_eq_of_text hb ha ht
    obtain ⟨pb, ob, eb⟩ := (accepted_iff_eager hv).mp hb
    obtain ⟨pa, oa, ea⟩ := (accepted_iff_eager (by rw [versionOf, hva]; exact hv)).mp ha
    exact validateEager_eq_ok eb ea hv6 ht
  simp only [validateAnchorTransition, validateVersionTransition, if_neg hv6, bind_eq_ok,
    dieIf_eq_ok, decide_eq_false_iff_not, not_not, ne_eq, exists_const]
  constructor
  · rintro ⟨tb, htb, ta, hta, ht, hval⟩
    exact ⟨⟨tb, htb⟩, ⟨ta, hta⟩, ht.symm, (hspec ⟨tb, htb⟩ ⟨ta, hta⟩ ht.symm).mp hval⟩
  · rintro ⟨⟨tb, htb⟩, ⟨ta, hta⟩, ht, hstep⟩
    exact ⟨tb, htb, ta, hta, ht.symm, (hspec ⟨tb, htb⟩ ⟨ta, hta⟩ ht).mpr hstep⟩

theorem materializedRebaseState_eq_ok {before after : Record} {tx : Option String} :
    materializedRebaseState before tx = .ok after ↔
      Accepted before ∧ versionOf before = "5" ∧ text before .phase = "MATERIALIZED" ∧
        isTx tx = true ∧ tx.getD "" ≠ text before .tx ∧ Accepted after ∧
        after = rebased before (tx.getD "") := by
  have hversion : ∀ hb : Accepted before,
      ((numify ((before .v).getD "0")).value ≠ 6 ↔ versionOf before = "5") := by
    intro hb
    cases hv : before .v with
    | none => simp only [versionOf, hv, Option.getD_none]; decide
    | some w =>
      have hw : versionOf before = w := by simp [versionOf, hv]
      rcases versionOf_cases hb with h | h
      · rw [hw, Option.getD_some]
        obtain rfl : w = "5" := hw.symm.trans h
        decide
      · rw [hw, Option.getD_some]
        obtain rfl : w = "6" := hw.symm.trans h
        decide
  simp only [materializedRebaseState, bind_eq_ok, dieIf_eq_ok, pure_eq_ok, exists_const,
    decide_eq_false_iff_not, not_not, not_or, ne_eq, Bool.not_eq_true', Bool.not_eq_false]
  constructor
  · rintro ⟨tb, htb, hv, hphase, ⟨htx, hfresh⟩, ta, hta, rfl⟩
    exact ⟨⟨tb, htb⟩, (hversion ⟨tb, htb⟩).mp hv, hphase, htx, hfresh, ⟨ta, hta⟩, rfl⟩
  · rintro ⟨⟨tb, htb⟩, hv, hphase, htx, hfresh, ⟨ta, hta⟩, rfl⟩
    exact ⟨tb, htb, (hversion ⟨tb, htb⟩).mpr hv, hphase, ⟨htx, hfresh⟩, ta, hta, rfl⟩

/-! ## Accepted version 6 steps -/

/-- Effect of an allowed version 6 phase change, beyond the immutable fields. -/
def LazyMove (p q : PhaseV6) (before after : Record) : Prop :=
  match p, q with
  | .lazyPrepared, .lazyDormant =>
    numberOf before .publication = 0 ∧ numberOf after .publication = 1 ∧
      ∀ f ∈ ownerFields, text after f = "none"
  | .lazyDormant, .lazyClaimed =>
    numberOf after .publication = numberOf before .publication + 1 ∧
      text after .ownerEpoch ≠ "none"
  | _, .lazyDormant | _, .materialized =>
    numberOf after .publication = numberOf before .publication ∧
      ∀ f ∈ ownerFields, text after f = "none"
  | _, _ =>
    numberOf after .publication = numberOf before .publication ∧ Keeps ownerFields before after

theorem checkLazyMove_eq_ok {p q : PhaseV6} {before after : Record} {u : Unit}
    (hpq : allowedLazyTransition p q = true) :
    (checkLazyPublication p.text q.text before after >>= fun _ =>
      checkLazyOwner p.text q.text before after) = .ok u ↔ LazyMove p q before after := by
  cases p <;> cases q <;> first
    | exact absurd hpq (by decide)
    | simp [checkLazyPublication, checkLazyOwner, LazyMove, Keeps, PhaseV6.text, ownerFields]
  all_goals tauto

theorem allowedLazyText_iff {s t : String} :
    allowedLazyText s t = true ↔ ∃ p q : PhaseV6, s = p.text ∧ t = q.text ∧
      allowedLazyTransition p q = true := by
  simp only [allowedLazyText, ← PhaseV6.ofText?_eq_some]
  cases PhaseV6.ofText? s <;> cases PhaseV6.ofText? t <;> simp

/-- One accepted version 6 step. The phases are compared as spelled, so only an anchor in
the canonical spelling ever moves. -/
inductive LazyStep (before after : Record) : Prop
  | same (hkeep : Keeps anchorFieldsV6 before after)
  | move (p q : PhaseV6) (hfrom : text before .phase = p.text) (hto : text after .phase = q.text)
      (hpq : allowedLazyTransition p q = true) (hkeep : Keeps lazyImmutableFields before after)
      (hmove : LazyMove p q before after)

theorem LazyAccepted.no_bar {h : Record} {phase : PhaseV6} (ha : LazyAccepted h phase)
    (hv : text h .v = "6") : ∀ f ∈ anchorFieldsV6, '|' ∉ (text h f).toList := by
  intro f hf
  by_cases h0 : f = .v
  · rw [h0, hv]
    decide
  · exact (ha.defined hf h0).2

theorem validateLazy_eq_ok {before after : Record} {u : Unit} {pb pa : PhaseV6}
    (hb : LazyAccepted before pb) (ha : LazyAccepted after pa) (hvb : text before .v = "6")
    (hv : text after .v = text before .v) :
    validateLazyAnchorTransition before after = .ok u ↔ LazyStep before after := by
  have hfields : anchorFields (text before .v) = .ok anchorFieldsV6 :=
    anchorFields_eq_ok.mpr (Or.inr ⟨hvb, rfl⟩)
  have hbar : ∀ fields, anchorFields (text before .v) = .ok fields →
      ∀ f ∈ fields, '|' ∉ (text before f).toList ∧ '|' ∉ (text after f).toList := by
    intro fields hf f h
    obtain rfl : anchorFieldsV6 = fields := by rw [hfields, Except.ok.injEq] at hf; exact hf
    exact ⟨hb.no_bar hvb f h, ha.no_bar (hv.trans hvb) f h⟩
  simp only [validateLazyAnchorTransition]
  split_ifs with hphase
  · rw [sameCanonical_eq_ok hv hbar, hfields]
    simp only [Except.ok.injEq, exists_eq_left']
    constructor
    · exact .same
    · rintro (hk | ⟨p, q, hp, hq, hpq, -, -⟩)
      · exact hk
      · obtain rfl := PhaseV6.text_injective (hp.symm.trans (hphase.trans hq))
        cases p <;> exact absurd hpq (by decide)
  · simp only [bind_eq_ok, dieIf_eq_ok, exists_const, Bool.not_eq_false', allowedLazyText_iff,
      forEach_eq_ok, unchanged_eq_ok]
    constructor
    · rintro ⟨⟨p, q, hp, hq, hpq⟩, hkeep, hmove⟩
      rw [hp, hq, ← bind_eq_ok, checkLazyMove_eq_ok hpq] at hmove
      exact .move p q hp hq hpq hkeep hmove
    · rintro (hk | ⟨p, q, hp, hq, hpq, hkeep, hmove⟩)
      · exact absurd (hk .phase (by decide)).symm hphase
      · refine ⟨⟨p, q, hp, hq, hpq⟩, hkeep, ?_⟩
        rw [hp, hq, ← bind_eq_ok, checkLazyMove_eq_ok hpq]
        exact hmove

theorem text_v_eq_six {h : Record} (hv : versionOf h = "6") : text h .v = "6" := by
  cases hb : h .v <;> simp_all [versionOf, text]

theorem validate_lazy_iff {before after : Record} {u : Unit} (hv : versionOf before = "6") :
    validateAnchorTransition before after = .ok u ↔
      Accepted before ∧ Accepted after ∧ text after .v = text before .v ∧
        LazyStep before after := by
  have hv6 := text_v_eq_six hv
  have hspec : ∀ hb : Accepted before, ∀ ha : Accepted after, text after .v = text before .v →
      (validateLazyAnchorTransition before after = .ok u ↔ LazyStep before after) := by
    intro hb ha ht
    have hva := version_eq_of_text hb ha ht
    obtain ⟨pb, eb⟩ := (accepted_iff_lazy hv).mp hb
    obtain ⟨pa, ea⟩ := (accepted_iff_lazy (by rw [versionOf, hva]; exact hv)).mp ha
    exact validateLazy_eq_ok eb ea hv6 ht
  simp only [validateAnchorTransition, validateVersionTransition, if_pos hv6, bind_eq_ok,
    dieIf_eq_ok, decide_eq_false_iff_not, not_not, ne_eq, exists_const]
  constructor
  · rintro ⟨tb, htb, ta, hta, ht, hval⟩
    exact ⟨⟨tb, htb⟩, ⟨ta, hta⟩, ht.symm, (hspec ⟨tb, htb⟩ ⟨ta, hta⟩ ht.symm).mp hval⟩
  · rintro ⟨⟨tb, htb⟩, ⟨ta, hta⟩, ht, hstep⟩
    exact ⟨tb, htb, ta, hta, ht.symm, (hspec ⟨tb, htb⟩ ⟨ta, hta⟩ ht).mpr hstep⟩

end SharedLvmThin.Thick
