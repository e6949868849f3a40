import SharedLvmThin.ThickTagDecode

/-!
# How the Thick encoders treat a field

An encoder treats each field it signs in one of five ways: as given, as the capture of
its pattern, in upper case, as an integer or as a constant. What acceptance says about a
value, and what encoding twice does to it, is decided by the treatment alone.
-/

namespace SharedLvmThin.Thick
open Perl TagCodec

inductive Treatment
  | asGiven | capture | upper | integer
  | fixed (s : String)
deriving DecidableEq

def Treatment.apply : Treatment → String → String
  | .asGiven, s => s
  | .capture, s => body s
  | .upper, s => uc (body s)
  | .integer, s => (numify s).text
  | .fixed c, _ => c

/-- A spelling that the treatment leaves alone. -/
def Treatment.Canonical : Treatment → String → Prop
  | .asGiven, _ => True
  | .capture, _ => True
  | .upper, s => uc s = s
  | .integer, s => IsNumeral s ∧ Nat.ofDigitChars 10 s.toList 0 < 2 ^ 64
  | .fixed c, s => s = c

instance (k : Treatment) (s : String) : Decidable (k.Canonical s) := by
  cases k <;> (simp only [Treatment.Canonical]; infer_instance)

namespace TagFamily

def treatment : TagFamily → Field → Treatment
  | .anchor, .op => .upper
  | .anchor, .phase => .upper
  | .anchor, .generation => .integer
  | .anchor, .region => .integer
  | .anchor, .bytes => .integer
  | .anchor, .publication => .integer
  | .generation, .v => .fixed "1"
  | .generation, .generation => .integer
  | .lazyObject, .bytes => .integer
  | .lazyObject, .region => .integer
  | .vgIntent, _ => .capture
  | _, _ => .asGiven

/-- The fields a record is signed over. -/
def fieldsOf : TagFamily → Record → List Field
  | .anchor, h => if versionOf h = "6" then anchorFieldsV6 else anchorFieldsV5
  | .generation, h => generationFields h
  | .lazyObject, _ => lazyObjectFields
  | .transition, _ => transitionFields
  | .vgIntent, _ => vgIntentFields

def defaultVersion : TagFamily → String
  | .anchor => "5"
  | _ => "1"

/-- A field as the encoder starts from it. -/
def given (t : TagFamily) (h : Record) (f : Field) : String :=
  if f = .v then (h .v).getD t.defaultVersion else text h f

end TagFamily

section
variable {t : TagFamily} {h n r : Record} {fields : List Field} {f : Field}

theorem fieldsOf_values (hval : t.values h = .ok (fields, n)) : fields = t.fieldsOf h := by
  cases t with
  | anchor =>
    rcases anchorValues_eq_ok.mp hval with ⟨h5, rfl, -⟩ | ⟨h6, rfl, -⟩
    · rw [TagFamily.fieldsOf, if_neg (by rw [h5]; decide)]
    · rw [TagFamily.fieldsOf, if_pos h6]
  | generation => exact (generationValues_eq_ok.mp hval).2.1
  | lazyObject => exact (lazyObjectValues_eq_ok.mp hval).2.1
  | transition => exact (transitionValues_eq_ok.mp hval).2.1
  | vgIntent => exact (vgIntentValues_eq_ok.mp hval).2.1

/-- Normalisation acts on every signed field by its treatment. -/
theorem text_normal (hval : t.values h = .ok (fields, n)) (hf : f ∈ fields) :
    text n f = (t.treatment f).apply (t.given h f) := by
  cases t with
  | anchor =>
    rcases anchorValues_eq_ok.mp hval with ⟨-, rfl, -, rfl⟩ | ⟨-, rfl, -, rfl⟩
    · revert hf
      cases f <;> simp [anchorFieldsV5, eagerNormal, TagFamily.treatment, Treatment.apply,
        TagFamily.given, TagFamily.defaultVersion]
    · revert hf
      cases f <;> simp [anchorFieldsV6, lazyNormal, TagFamily.treatment, Treatment.apply,
        TagFamily.given, TagFamily.defaultVersion]
  | generation =>
    obtain ⟨-, rfl, rfl⟩ := generationValues_eq_ok.mp hval
    revert hf
    cases f <;> simp [generationFields, TagFamily.treatment, Treatment.apply, TagFamily.given]
  | lazyObject =>
    obtain ⟨-, rfl, rfl⟩ := lazyObjectValues_eq_ok.mp hval
    revert hf
    cases f <;> simp [lazyObjectFields, TagFamily.treatment, Treatment.apply, TagFamily.given,
      TagFamily.defaultVersion]
  | transition =>
    obtain ⟨-, rfl, rfl⟩ := transitionValues_eq_ok.mp hval
    revert hf
    cases f <;> simp [transitionFields, TagFamily.treatment, Treatment.apply, TagFamily.given,
      TagFamily.defaultVersion]
  | vgIntent =>
    obtain ⟨-, rfl, rfl⟩ := vgIntentValues_eq_ok.mp hval
    revert hf
    cases f <;> simp [vgIntentFields, vgIntentNormal, TagFamily.treatment, Treatment.apply,
      TagFamily.given, TagFamily.defaultVersion]

end

/-! ## Characters of treated values -/

section
variable {h : Record} {f : Field} {s : String}

theorem isDigit_token {c : Char} (hc : c.isDigit = true) : isTokenChar c = true := by
  simp [isTokenChar, Char.isAlphanum, hc]

theorem toUpper_token {c : Char} (hc : isTokenChar c = true) : isTokenChar c.toUpper = true := by
  have hlt := isTokenChar_ascii hc
  rw [← Char.ofNat_toNat c] at hc ⊢
  generalize c.toNat = n at hc hlt
  interval_cases n <;> first | rfl | exact absurd hc (by decide)

theorem toUpper_toUpper {c : Char} (hc : c.toNat < 128) : c.toUpper.toUpper = c.toUpper := by
  rw [← Char.ofNat_toNat c]
  generalize c.toNat = n at hc
  interval_cases n <;> decide

theorem plus_uc (hs : plus isTokenChar s = true) : plus isTokenChar (uc s) = true := by
  rw [plus_iff] at hs ⊢
  rw [toList_uc]
  refine ⟨by simpa using hs.1, fun c hc => ?_⟩
  obtain ⟨d, hd, rfl⟩ := List.mem_map.mp hc
  exact toUpper_token (hs.2 d hd)

theorem uc_uc (hs : plus isTokenChar s = true) : uc (uc s) = uc s := by
  rw [← String.toList_inj, toList_uc, toList_uc, List.map_map]
  exact List.map_congr_left fun c hc =>
    toUpper_toUpper (isTokenChar_ascii ((plus_iff.mp hs).2 c hc))

theorem body_of_plus (hs : plus isTokenChar s = true) : body s = s :=
  body_eq_self (not_endsInNewline_of_all (by decide) (plus_iff.mp hs).2)

theorem scientific_token (n : Nat) : ∀ c ∈ (scientific n).toList, isTokenChar c = true := by
  have hdigits : ∀ m : Nat, ∀ c ∈ m.repr.toList.rdropWhile (· = '0'), isTokenChar c = true :=
    fun m c hc => isDigit_token (repr_all_isDigit m c ((List.rdropWhile_prefix _ _).subset hc))
  intro c hc
  simp only [scientific] at hc
  generalize (if _ = 10 ^ 15 then _ else _ : Nat × Nat) = p at hc
  simp only [String.toList_append, String.toList_ofList, List.mem_append] at hc
  rcases hc with (hc | hc) | hc
  · split_ifs at hc
    · exact hdigits _ c hc
    · rcases List.mem_append.mp hc with hc | hc
      · exact hdigits _ c (List.mem_of_mem_take hc)
      · rcases List.mem_cons.mp hc with rfl | hc
        · decide
        · exact hdigits _ c (List.mem_of_mem_drop hc)
  · have : c = 'e' ∨ c = '+' := by simpa using hc
    rcases this with rfl | rfl <;> decide
  · exact isDigit_token (repr_all_isDigit _ c hc)

theorem numText_token (x : Perl.Num) : plus isTokenChar x.text = true := by
  rw [plus_iff]
  cases x with
  | int n =>
    refine ⟨?_, fun c hc => isDigit_token (repr_all_isDigit n c hc)⟩
    rw [Perl.Num.text, Nat.toList_repr]
    exact Nat.toDigits_ne_nil
  | flt n =>
    refine ⟨?_, scientific_token n⟩
    intro hnil
    have : 'e' ∈ (scientific n).toList := by simp [scientific]
    rw [Perl.Num.text] at hnil
    simp [hnil] at this
  | inf => exact ⟨by decide, List.all_eq_true.mp (by decide)⟩

theorem body_of_isTx (htx : isTx (h f) = true) : plus isTokenChar (body (text h f)) = true := by
  have hdef := (plain_of_isTx htx).1
  rw [hdef, isTx, exactly_iff] at htx
  rw [plus_iff]
  refine ⟨fun hnil => ?_, fun c hc => isLowerHex_token (htx.2 c hc)⟩
  rw [hnil] at htx
  exact absurd htx.1 (by decide)

theorem body_of_isDigits (hd : isDigits s = true) (hl : ∀ c ∈ s.toList, c.toNat < 256) :
    plus isTokenChar (body s) = true := by
  rw [isDigits, plus_iff] at hd
  rw [plus_iff]
  refine ⟨hd.1, fun c hc => isDigit_token (isDigit_of_latin1 (hd.2 c hc) (hl c ?_))⟩
  by_cases hn : EndsInNewline s
  · rw [toList_of_endsInNewline hn]
    exact List.mem_append_left _ hc
  · rwa [body_eq_self hn] at hc

end

/-! ## What acceptance says about each treatment -/

section
variable {t : TagFamily} {h n r : Record} {fields : List Field} {f : Field} {digest : String}

theorem latin1_of_digest {S : Family Field} (hd : S.digest fields n = .ok digest) (hf : f ∈ fields) :
    ∀ c ∈ (text n f).toList, c.toNat < 256 := by
  simp only [Alphabet.digest, bind_eq_ok] at hd
  obtain ⟨hex, hhex, -⟩ := hd
  exact fun c hc => Sha256.latin1_of_sha256Hex hhex c (mem_canonical S hf hc)

/-- The digest is itself a readable value. -/
theorem digest_token {S : Family Field} (hd : S.digest fields n = .ok digest) :
    plus isTokenChar digest = true := by
  simp only [Alphabet.digest, bind_eq_ok, pure_eq_ok] at hd
  obtain ⟨hex, hhex, rfl⟩ := hd
  obtain ⟨hlen, hlow⟩ := Sha256.sha256Hex_spec hhex
  rw [plus_iff, String.toList_ofList]
  refine ⟨fun hnil => ?_, fun c hc => isLowerHex_token (hlow c (List.mem_of_mem_take hc))⟩
  have := congrArg List.length hnil
  simp [hlen] at this

/-- A number that fits in 64 bits. -/
def FitsWord (s : String) : Prop := ∃ m < 2 ^ 64, numify s = .int m

theorem fitsWord_of_not_gt {s : String} {k : Nat} (hk : k < 2 ^ 64)
    (hgt : (numify s).gt k = false) : FitsWord s := by
  obtain ⟨m, hm, hnum⟩ := numify_of_not_gt hk hgt
  exact ⟨m, by omega, hnum⟩

/-- A number the encoder accepted, within 64 bits unless it is a byte size. -/
theorem integer_of_values (hval : t.values h = .ok (fields, n)) (hf : f ∈ fields)
    (ht : t.treatment f = .integer) :
    t.given h f = text h f ∧ (∃ bad, badNumber (h f) bad = false) ∧
      (f ≠ .bytes → FitsWord (text h f)) := by
  have hgen : badGeneration (h .generation) = false → FitsWord (text h .generation) := by
    intro hb
    obtain ⟨s, hs, -, hgt⟩ := badNumber_eq_false.mp hb
    rw [text, hs]
    exact fitsWord_of_not_gt (by norm_num) hgt
  have hpub : badPublication (h .publication) = false → FitsWord (text h .publication) := by
    intro hb
    obtain ⟨s, hs, -, hgt⟩ := badNumber_eq_false.mp hb
    rw [text, hs]
    exact fitsWord_of_not_gt (by norm_num) hgt
  have hreg : badRegion (h .region) = false → FitsWord (text h .region) := by
    intro hb
    obtain ⟨s, hs, -, hbad⟩ := badNumber_eq_false.mp hb
    simp only [Bool.or_eq_false_iff] at hbad
    rw [text, hs]
    exact fitsWord_of_not_gt (by norm_num) hbad.1.2
  cases t with
  | anchor =>
    rcases anchorValues_eq_ok.mp hval with ⟨-, rfl, ⟨p, op, ha⟩, -⟩ | ⟨-, rfl, ⟨p, ha⟩, -⟩
    · cases f <;> first
        | exact Treatment.noConfusion ht
        | exact absurd hf (by decide)
        | exact ⟨rfl, ⟨_, ha.generation⟩, fun _ => hgen ha.generation⟩
        | exact ⟨rfl, ⟨_, ha.region⟩, fun _ => hreg ha.region⟩
    · cases f <;> first
        | exact Treatment.noConfusion ht
        | exact ⟨rfl, ⟨_, ha.generation⟩, fun _ => hgen ha.generation⟩
        | exact ⟨rfl, ⟨_, ha.region⟩, fun _ => hreg ha.region⟩
        | exact ⟨rfl, ⟨_, ha.publication⟩, fun _ => hpub ha.publication⟩
        | exact ⟨rfl, ⟨_, ha.bytes⟩, fun hne => absurd rfl hne⟩
  | generation =>
    obtain ⟨ha, -, -⟩ := generationValues_eq_ok.mp hval
    cases f <;> first
      | exact Treatment.noConfusion ht
      | exact ⟨rfl, ⟨_, ha.generation⟩, fun _ => hgen ha.generation⟩
  | lazyObject =>
    obtain ⟨ha, -, -⟩ := lazyObjectValues_eq_ok.mp hval
    cases f <;> first
      | exact Treatment.noConfusion ht
      | exact ⟨rfl, ⟨_, ha.region⟩, fun _ => hreg ha.region⟩
      | exact ⟨rfl, ⟨_, ha.bytes⟩, fun hne => absurd rfl hne⟩
  | transition => cases f <;> exact Treatment.noConfusion ht
  | vgIntent => cases f <;> exact Treatment.noConfusion ht

theorem upper_of_values (hval : t.values h = .ok (fields, n)) (hf : f ∈ fields)
    (ht : t.treatment f = .upper) : plus isTokenChar (body (t.given h f)) = true := by
  cases t with
  | anchor =>
    rcases anchorValues_eq_ok.mp hval with ⟨-, -, ⟨p, op, ha⟩, -⟩ | ⟨-, -, ⟨p, ha⟩, -⟩
    · cases f <;> first
        | exact Treatment.noConfusion ht
        | exact ha.opToken
        | exact ha.phaseToken
    · cases f <;> first
        | exact Treatment.noConfusion ht
        | exact ha.opToken
        | exact ha.phaseToken
  | generation => cases f <;> exact Treatment.noConfusion ht
  | lazyObject => cases f <;> exact Treatment.noConfusion ht
  | transition => cases f <;> exact Treatment.noConfusion ht
  | vgIntent => cases f <;> exact Treatment.noConfusion ht

theorem capture_of_values (hval : t.values h = .ok (fields, n)) (hf : f ∈ fields)
    (ht : t.treatment f = .capture) : plus isTokenChar (body (t.given h f)) = true := by
  cases t with
  | anchor => cases f <;> exact Treatment.noConfusion ht
  | generation => cases f <;> exact Treatment.noConfusion ht
  | lazyObject => cases f <;> exact Treatment.noConfusion ht
  | transition => cases f <;> exact Treatment.noConfusion ht
  | vgIntent =>
    obtain ⟨ha, rfl, -⟩ := vgIntentValues_eq_ok.mp hval
    have hbefore : plus isTokenChar (body (text h .before)) = true := by
      have := ha.before
      simp only [isBeforeDigest, Bool.and_eq_true, decide_eq_true_eq, List.all_eq_true] at this
      rw [plus_iff]
      exact ⟨fun hnil => by simp [hnil] at this, fun c hc => isLowerHex_token (this.2 c hc)⟩
    have hop : plus isTokenChar (body (text h .op)) = true := by
      have hall : ∀ o ∈ intentOperations, plus isTokenChar o = true := by decide
      exact hall _ ha.op
    simp only [vgIntentFields, List.mem_cons, List.not_mem_nil, or_false] at hf
    rcases hf with rfl | rfl | rfl | rfl | rfl | rfl
    · change plus isTokenChar (body ((h .v).getD "1")) = true
      rw [ha.version]
      decide
    · exact body_of_isTx ha.tx
    · change plus isTokenChar (body (text h .state)) = true
      rw [ha.state]
      decide
    · exact hop
    · exact ha.object
    · exact hbefore

/-- A field signed as given is readable but for a final line feed. -/
theorem given_of_values (hval : t.values h = .ok (fields, n))
    (hd : t.family.digest fields n = .ok digest) (hf : f ∈ fields)
    (ht : t.treatment f = .asGiven) : plus isTokenChar (body (t.given h f)) = true := by
  have hlatin := latin1_of_digest hd hf
  rw [text_normal hval hf, ht, Treatment.apply] at hlatin
  cases t with
  | anchor =>
    rcases anchorValues_eq_ok.mp hval with ⟨hv, rfl, ⟨p, op, ha⟩, -⟩ | ⟨hv, rfl, ⟨p, ha⟩, -⟩
    · rcases mem_anchorFieldsV5_cases hf with rfl | htok | hf'
      · change plus isTokenChar (body (versionOf h)) = true
        rw [hv]
        decide
      · have hg : TagFamily.anchor.given h f = text h f := by
          revert htok
          cases f <;> simp [eagerTokenFields, TagFamily.given]
        rw [hg]
        exact ha.tokens f htok
      · rcases hf' with rfl | rfl | rfl | rfl | rfl <;> first
          | exact Treatment.noConfusion ht
          | exact body_of_isTx ha.tx
    · rcases mem_anchorFieldsV6_cases hf with rfl | htok | hf'
      · change plus isTokenChar (body (versionOf h)) = true
        rw [hv]
        decide
      · have hg : TagFamily.anchor.given h f = text h f := by
          revert htok
          cases f <;> simp [lazyTokenFields, TagFamily.given]
        rw [hg]
        exact ha.tokens f htok
      · rcases hf' with rfl | rfl | rfl | rfl | rfl | rfl | rfl <;> first
          | exact Treatment.noConfusion ht
          | exact body_of_isTx ha.tx
  | generation =>
    obtain ⟨ha, rfl, -⟩ := generationValues_eq_ok.mp hval
    simp only [generationFields, List.mem_append, List.mem_cons, List.not_mem_nil, or_false] at hf
    rcases hf with (rfl | rfl | rfl | rfl | rfl) | hsnap
    · exact Treatment.noConfusion ht
    · exact ha.tokens .sid (by decide)
    · exact ha.tokens .vol (by decide)
    · exact ha.tokens .role (by decide)
    · exact Treatment.noConfusion ht
    · split_ifs at hsnap with hrole
      · obtain rfl := List.mem_singleton.mp hsnap
        exact ha.named hrole
      · cases hsnap
  | lazyObject =>
    obtain ⟨ha, rfl, -⟩ := lazyObjectValues_eq_ok.mp hval
    simp only [lazyObjectFields, List.mem_cons, List.not_mem_nil, or_false] at hf
    rcases hf with rfl | rfl | rfl | rfl | rfl | rfl | rfl
    · change plus isTokenChar (body ((h .v).getD "1")) = true
      rw [ha.version]
      decide
    · exact ha.tokens .sid (by decide)
    · exact ha.tokens .vol (by decide)
    · exact body_of_isTx ha.tx
    · exact ha.tokens .kind (by decide)
    · exact Treatment.noConfusion ht
    · exact Treatment.noConfusion ht
  | transition =>
    obtain ⟨ha, rfl, -⟩ := transitionValues_eq_ok.mp hval
    simp only [transitionFields, List.mem_cons, List.not_mem_nil, or_false] at hf
    rcases hf with rfl | rfl | rfl | rfl | rfl | rfl | rfl
    · change plus isTokenChar (body ((h .v).getD "1")) = true
      rw [ha.version]
      decide
    · exact ha.tokens .sid (by decide)
    · exact ha.tokens .vol (by decide)
    · exact body_of_isTx ha.tx
    · exact ha.tokens .kind (by decide)
    · exact body_of_isDigits (defined_of_badNumber ha.generation).2 hlatin
    · exact body_of_isDigits (defined_of_badNumber ha.region).2 hlatin
  | vgIntent => cases f <;> exact Treatment.noConfusion ht

theorem fixed_token {c : String} (ht : t.treatment f = .fixed c) : c = "1" := by
  cases t <;> cases f <;> first
    | exact Treatment.noConfusion ht
    | exact (Treatment.fixed.inj ht).symm

/-- A signed value is readable exactly when it is not given with a final line feed. -/
theorem normal_token_iff (hval : t.values h = .ok (fields, n))
    (hd : t.family.digest fields n = .ok digest) (hf : f ∈ fields) :
    plus isTokenChar (text n f) = true ↔
      (t.treatment f = .asGiven → ¬ EndsInNewline (t.given h f)) := by
  rw [text_normal hval hf]
  cases ht : t.treatment f with
  | asGiven =>
    have hbody := given_of_values hval hd hf ht
    refine ⟨fun hp _ => not_endsInNewline_of_all (by decide) (plus_iff.mp hp).2, fun hnl => ?_⟩
    rw [body_eq_self (hnl rfl)] at hbody
    exact hbody
  | capture => simpa [Treatment.apply] using capture_of_values hval hf ht
  | upper => simpa [Treatment.apply] using plus_uc (upper_of_values hval hf ht)
  | integer => simpa [Treatment.apply] using numText_token _
  | fixed c =>
    rw [fixed_token ht]
    simp only [Treatment.apply, reduceCtorEq, false_implies, iff_true]
    decide

end

/-! ## Encoding twice -/

section
variable {t : TagFamily} {h n r : Record} {fields : List Field} {f : Field}

theorem upper_again {s : String} (hs : plus isTokenChar (body s) = true) :
    isToken (uc (body s)) = true ∧ uc (body (uc (body s))) = uc (body s) := by
  have hu := plus_uc hs
  rw [isToken, body_of_plus hu, uc_uc hs]
  exact ⟨hu, rfl⟩

theorem badNumber_again {bad : Perl.Num → Bool} (hb : badNumber (h f) bad = false)
    (hfit : FitsWord (text h f)) :
    badNumber (some (numify (text h f)).text) bad = false ∧
      (numify (numify (text h f)).text).text = (numify (text h f)).text := by
  obtain ⟨s, hs, -, hbad⟩ := badNumber_eq_false.mp hb
  obtain ⟨m, hm, hnum⟩ := hfit
  have ht : text h f = s := by simp [text, hs]
  rw [ht] at hnum ⊢
  rw [hnum] at hbad ⊢
  rw [Perl.Num.text, badNumber, isDigits_repr, numify_repr hm, hbad]
  exact ⟨rfl, rfl⟩

theorem EagerAccepted.again {p : PhaseV5} {op : Operation} (ha : EagerAccepted h p op)
    (hgen : FitsWord (text h .generation)) (hreg : FitsWord (text h .region))
    (hr : ∀ f ∈ anchorFieldsV5, r f = some (text (eagerNormal (putDefault h .v "5")) f)) :
    EagerAccepted r p op := by
  have htext : ∀ f ∈ anchorFieldsV5, text r f = text (eagerNormal (putDefault h .v "5")) f :=
    fun f hf => by rw [text, hr f hf]; rfl
  have htok : ∀ f ∈ eagerTokenFields, text r f = text h f := fun f hf => by
    rw [htext f (by revert hf; cases f <;> decide), eagerNormal_token hf]
  have hnum : ∀ f ∈ [Field.generation, .region], r f = some (numify (text h f)).text :=
    fun f hf => by
      rw [hr f (by revert hf; cases f <;> decide)]
      revert hf
      cases f <;> simp [eagerNormal]
  have hop : text r .op = uc (body (text h .op)) := by
    rw [htext _ (by decide)]
    simp [eagerNormal]
  have hphase : text r .phase = uc (body (text h .phase)) := by
    rw [htext _ (by decide)]
    simp [eagerNormal]
  have hopr := upper_again ha.opToken
  have hphr := upper_again ha.phaseToken
  exact {
    tokens := fun f hf => by rw [htok f hf]; exact ha.tokens f hf
    opToken := by rw [hop]; exact hopr.1
    opRead := by rw [operationOf, hop, hopr.2]; exact ha.opRead
    phaseToken := by rw [hphase]; exact hphr.1
    phaseRead := by rw [phaseOfV5, hphase, hphr.2]; exact ha.phaseRead
    tx := by
      rw [hr _ (by decide)]
      simpa [eagerNormal, ← (plain_of_isTx ha.tx).1] using ha.tx
    generation := by
      rw [hnum _ (by decide)]
      exact (badNumber_again ha.generation hgen).1
    region := by
      rw [hnum _ (by decide)]
      exact (badNumber_again ha.region hreg).1
    headOk := ha.headOk.congr (htok _ (by decide)) (htok _ (by decide)) (htok _ (by decide))
    operationOk := ha.operationOk.congr fun f hf => htok f (by revert hf; cases f <;> decide) }

theorem LazyAccepted.again {p : PhaseV6} (ha : LazyAccepted h p)
    (hfit : ∀ f ∈ [Field.generation, .region, .bytes, .publication], FitsWord (text h f))
    (hr : ∀ f ∈ anchorFieldsV6, r f = some (text (lazyNormal (putDefault h .v "5")) f)) :
    LazyAccepted r p := by
  have htext : ∀ f ∈ anchorFieldsV6, text r f = text (lazyNormal (putDefault h .v "5")) f :=
    fun f hf => by rw [text, hr f hf]; rfl
  have htok : ∀ f ∈ lazyTokenFields, text r f = text h f := fun f hf => by
    rw [htext f (by revert hf; cases f <;> decide), lazyNormal_token hf]
  have hgiven : ∀ f ∈ lazyTokenFields, r f = h f := fun f hf => by
    rw [hr f (by revert hf; cases f <;> decide), lazyNormal_token hf]
    exact (some_of_isToken (ha.tokens f hf)).symm
  have hnum : ∀ f ∈ [Field.generation, .region, .bytes, .publication],
      r f = some (numify (text h f)).text := fun f hf => by
    rw [hr f (by revert hf; cases f <;> decide)]
    revert hf
    cases f <;> simp [lazyNormal]
  have hop : text r .op = uc (body (text h .op)) := by
    rw [htext _ (by decide)]
    simp [lazyNormal]
  have hphase : text r .phase = uc (body (text h .phase)) := by
    rw [htext _ (by decide)]
    simp [lazyNormal]
  have hopr := upper_again ha.opToken
  have hphr := upper_again ha.phaseToken
  exact {
    tokens := fun f hf => by rw [htok f hf]; exact ha.tokens f hf
    opToken := by rw [hop]; exact hopr.1
    opRead := by rw [hop, hopr.2]; exact ha.opRead
    phaseToken := by rw [hphase]; exact hphr.1
    phaseRead := by rw [phaseOfV6, hphase, hphr.2]; exact ha.phaseRead
    tx := by
      rw [hr _ (by decide)]
      simpa [lazyNormal, ← (plain_of_isTx ha.tx).1] using ha.tx
    policy := by rw [htok _ (by decide)]; exact ha.policy
    zeroSource := by rw [htok _ (by decide)]; exact ha.zeroSource
    snapshot := by rw [htok _ (by decide)]; exact ha.snapshot
    sourceOld := by rw [htok _ (by decide), htok _ (by decide)]; exact ha.sourceOld
    oldNew := by rw [htok _ (by decide), htok _ (by decide)]; exact ha.oldNew
    newHead := by rw [htok _ (by decide), htok _ (by decide)]; exact ha.newHead
    generation := by
      rw [hnum _ (by decide)]
      exact (badNumber_again ha.generation (hfit _ (by decide))).1
    region := by
      rw [hnum _ (by decide)]
      exact (badNumber_again ha.region (hfit _ (by decide))).1
    bytes := by
      rw [hnum _ (by decide)]
      exact (badNumber_again ha.bytes (hfit _ (by decide))).1
    publication := by
      rw [hnum _ (by decide)]
      exact (badNumber_again ha.publication (hfit _ (by decide))).1
    owner := ha.owner.congr fun f hf => hgiven f (by revert hf; cases f <;> decide)
    published := by
      obtain ⟨m, hm, hint⟩ := hfit .publication (by decide)
      have hpub := ha.published
      rw [numberOf, hint, Perl.Num.value] at hpub
      rw [numberOf, text, hnum _ (by decide), Option.getD_some, hint, Perl.Num.text, numify_repr hm,
        Perl.Num.value]
      exact hpub }

/-- An encoder accepts what it has normalised, as long as a byte size fits in 64 bits. -/
theorem values_again (hval : t.values h = .ok (fields, n))
    (hbytes : .bytes ∈ fields → FitsWord (text h .bytes))
    (hr : ∀ f ∈ fields, r f = some (text n f)) (hnone : ∀ f, f ∉ fields → f ≠ .sha256 → r f = none) :
    ∃ m, t.values r = .ok (fields, m) := by
  have hfit : ∀ f ∈ fields, t.treatment f = .integer → FitsWord (text h f) := by
    intro f hf ht
    by_cases hb : f = .bytes
    · subst hb
      exact hbytes hf
    · exact (integer_of_values hval hf ht).2.2 hb
  have htext : ∀ f ∈ fields, text r f = text n f := fun f hf => by rw [text, hr f hf]; rfl
  cases t with
  | anchor =>
    have hversion : ∀ v, versionOf h = v → fields = anchorFieldsV5 ∨ fields = anchorFieldsV6 →
        text n .v = v → versionOf r = v := by
      intro v _ hfields hv
      rw [versionOf, hr .v (by rcases hfields with rfl | rfl <;> decide), hv]
      rfl
    rcases anchorValues_eq_ok.mp hval with ⟨hv, rfl, ⟨p, op, ha⟩, rfl⟩ | ⟨hv, rfl, ⟨p, ha⟩, rfl⟩
    · have hv' : versionOf r = "5" := by
        refine hversion "5" hv (Or.inl rfl) ?_
        simpa [eagerNormal, versionOf] using hv
      exact ⟨_, anchorValues_eq_ok.mpr (Or.inl ⟨hv', rfl, ⟨p, op, ha.again
        (hfit _ (by decide) rfl) (hfit _ (by decide) rfl) hr⟩, rfl⟩)⟩
    · have hv' : versionOf r = "6" := by
        refine hversion "6" hv (Or.inr rfl) ?_
        simpa [lazyNormal, versionOf] using hv
      refine ⟨_, anchorValues_eq_ok.mpr (Or.inr ⟨hv', rfl, ⟨p, ha.again (fun f hf => ?_) hr⟩, rfl⟩)⟩
      exact hfit f (by revert hf; cases f <;> decide) (by revert hf; cases f <;> decide)
  | generation =>
    obtain ⟨ha, rfl, rfl⟩ := generationValues_eq_ok.mp hval
    have hkeep : ∀ f ∈ generationFields h, f ≠ .v → f ≠ .generation → text r f = text h f := by
      intro f hf hv hg
      rw [htext f hf]
      simp [hv, hg]
    have hhead : ∀ f ∈ [Field.sid, .vol, .role], text r f = text h f := fun f hf =>
      hkeep f (by rw [generationFields]; revert hf; cases f <;> simp) (by rintro rfl; simp at hf)
        (by rintro rfl; simp at hf)
    have hrole := hhead .role (by decide)
    have hfields : generationFields r = generationFields h := by
      rw [generationFields, generationFields, hrole]
    refine ⟨_, generationValues_eq_ok.mpr ⟨⟨fun f hf => ?_, ?_, ?_, fun hs => ?_, fun hs => ?_⟩,
      hfields.symm, rfl⟩⟩
    · rw [hhead f hf]
      exact ha.tokens f hf
    · rw [hrole]
      exact ha.role
    · rw [hr .generation (by simp [generationFields])]
      simpa [badGeneration] using (badNumber_again ha.generation
        (hfit .generation (by simp [generationFields]) rfl)).1
    · rw [hrole] at hs
      rw [hkeep .snapshot (by simp [generationFields, hs]) (by decide) (by decide)]
      exact ha.named hs
    · rw [hrole] at hs
      exact hnone .snapshot (by simp [generationFields, hs]) (by decide)
  | lazyObject =>
    obtain ⟨ha, rfl, rfl⟩ := lazyObjectValues_eq_ok.mp hval
    refine ⟨_, lazyObjectValues_eq_ok.mpr ⟨⟨?_, fun f hf => ?_, ?_, ?_, ?_, ?_⟩, rfl, rfl⟩⟩
    · rw [hr .v (by decide)]
      simpa using ha.version
    · rw [htext f (by revert hf; cases f <;> decide)]
      have := ha.tokens f hf
      revert hf this
      cases f <;> simp
    · rw [htext .kind (by decide)]
      simpa using ha.kind
    · rw [hr .tx (by decide)]
      simpa [← (plain_of_isTx ha.tx).1] using ha.tx
    · rw [hr .bytes (by decide)]
      simpa [badBytes] using (badNumber_again ha.bytes (hfit .bytes (by decide) rfl)).1
    · rw [hr .region (by decide)]
      simpa [badRegion] using (badNumber_again ha.region (hfit .region (by decide) rfl)).1
  | transition =>
    obtain ⟨ha, rfl, rfl⟩ := transitionValues_eq_ok.mp hval
    have hsame : ∀ f ∈ transitionFields, f ≠ .v → h f = some (text h f) → r f = h f := by
      intro f hf hv hd
      rw [hr f hf, text_putDefault, if_neg hv, ← hd]
    refine ⟨_, transitionValues_eq_ok.mpr ⟨⟨?_, fun f hf => ?_, ?_, ?_, ?_, ?_⟩, rfl, rfl⟩⟩
    · rw [hr .v (by decide)]
      simpa using ha.version
    · rw [htext f (by revert hf; cases f <;> decide)]
      have := ha.tokens f hf
      revert hf this
      cases f <;> simp
    · rw [htext .kind (by decide)]
      simpa using ha.kind
    · rw [hsame .tx (by decide) (by decide) (plain_of_isTx ha.tx).1]
      exact ha.tx
    · rw [hsame .generation (by decide) (by decide) (defined_of_badNumber ha.generation).1]
      exact ha.generation
    · rw [hsame .region (by decide) (by decide) (defined_of_badNumber ha.region).1]
      exact ha.region
  | vgIntent =>
    have hbody : ∀ f ∈ fields, text r f = body (TagFamily.vgIntent.given h f) ∧
        body (text r f) = text r f := by
      intro f hf
      rw [htext f hf, text_normal hval hf]
      exact ⟨rfl, body_of_plus (capture_of_values hval hf (by cases f <;> rfl))⟩
    obtain ⟨ha, rfl, rfl⟩ := vgIntentValues_eq_ok.mp hval
    refine ⟨_, vgIntentValues_eq_ok.mpr ⟨⟨?_, ?_, ?_, ?_, ?_, ?_⟩, rfl, rfl⟩⟩
    · rw [hr .v (by decide), Option.getD_some, ← htext .v (by decide), (hbody .v (by decide)).2,
        (hbody .v (by decide)).1]
      exact ha.version
    · have htx := ha.tx
      rw [(plain_of_isTx ha.tx).1, isTx] at htx
      rw [hr .tx (by decide), ← htext .tx (by decide), isTx, (hbody .tx (by decide)).2,
        (hbody .tx (by decide)).1]
      exact htx
    · rw [(hbody .state (by decide)).2, (hbody .state (by decide)).1]
      exact ha.state
    · rw [(hbody .op (by decide)).2, (hbody .op (by decide)).1]
      exact ha.op
    · rw [isToken, (hbody .object (by decide)).2, (hbody .object (by decide)).1]
      exact ha.object
    · have hb := ha.before
      simp only [isBeforeDigest] at hb ⊢
      rw [(hbody .before (by decide)).2, (hbody .before (by decide)).1]
      exact hb

/-- Normalising a normalised record changes nothing. -/
theorem normal_again {m : Record} (hval : t.values h = .ok (fields, n))
    (hbytes : .bytes ∈ fields → FitsWord (text h .bytes))
    (hr : ∀ f ∈ fields, r f = some (text n f)) (hm : t.values r = .ok (fields, m))
    (hf : f ∈ fields) : text m f = text n f := by
  have hgiven : t.given r f = text n f := by
    rw [TagFamily.given]
    split_ifs with hv
    · subst hv
      rw [hr .v hf]
      rfl
    · rw [text, hr f hf]
      rfl
  rw [text_normal hm hf, hgiven, text_normal hval hf]
  cases ht : t.treatment f with
  | asGiven => rfl
  | capture => exact body_of_plus (capture_of_values hval hf ht)
  | upper => exact (upper_again (upper_of_values hval hf ht)).2
  | integer =>
    obtain ⟨hg, ⟨bad, hb⟩, hfit⟩ := integer_of_values hval hf ht
    have hword : FitsWord (text h f) := by
      by_cases hbf : f = .bytes
      · subst hbf
        exact hbytes hf
      · exact hfit hbf
    rw [hg]
    exact (badNumber_again hb hword).2
  | fixed c => rfl

theorem digest_congr {S : Family Field} {m : Record} (h : ∀ f ∈ fields, text m f = text n f) :
    S.digest fields m = S.digest fields n := by
  have hcanonical : S.canonical fields m = S.canonical fields n := by
    simp only [Alphabet.canonical]
    congr 1
    exact List.map_congr_left fun f hf => by rw [h f hf]
  rw [Alphabet.digest, Alphabet.digest, hcanonical]

end

end SharedLvmThin.Thick
