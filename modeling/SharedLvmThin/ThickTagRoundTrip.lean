import SharedLvmThin.ThickTagTreatment

/-!
# Round trips of the Thick tag families

Written tags can be read back exactly when nothing signed as given ends in a line feed
and the byte size fits in 64 bits. Read tags are the ones that would be written exactly
when every field is in the spelling its treatment leaves alone.
-/

namespace SharedLvmThin.Thick
open Perl TagCodec

/-! ## Reading back what was written -/

/-- The signed values and their digest, as a decoder returns them. -/
def signedRecord (fields : List Field) (n : Record) (digest : String) : Record := fun f =>
  if f ∈ fields then some (text n f) else if f = .sha256 then some digest else none

/-- A tag that a family's decoder passes over. -/
def Foreign (S : Family Field) (s : String) : Prop := ',' ∉ s.toList ∧ S.leads (trim s) = false

/-- Every arrangement of the written tags among foreign ones, joined by commas, is read
back as the normalised values and the digest. -/
def RoundTrips (t : TagFamily) (h : Record) : Prop :=
  ∃ fields n digest tags, t.values h = .ok (fields, n) ∧
    t.family.digest fields n = .ok digest ∧ t.encode h = .ok tags ∧
    ∀ foreign list : List String, (∀ s ∈ foreign, Foreign t.family s) →
      list.Perm (tags ++ foreign) →
      t.decode (.scalar (some (String.intercalate "," list))) =
        .ok (some (signedRecord fields n digest))

section
variable {t : TagFamily} {h n r : Record} {fields : List Field} {f : Field} {digest : String}

theorem tag_no_comma {v : String} (hv : plus isTokenChar v = true) :
    ',' ∉ (t.family.tag f v).toList := by
  rw [tag_toList]
  simp only [List.mem_append, List.mem_cons, not_or]
  refine ⟨fun hc => ?_, fun hc => ?_, by decide, fun hc => ?_⟩
  · exact absurd ((plus_iff.mp t.family.lead_word).2 _ hc) (by decide)
  · exact absurd ((plus_iff.mp (t.family.name_word f)).2 _ hc) (by decide)
  · exact absurd ((plus_iff.mp hv).2 _ hc) (by decide)

theorem own_rdropWhile (S : Family Field) (list : List String) :
    S.own (list.rdropWhile (· = "")) = S.own list := by
  have hempty : S.own (list.rtakeWhile (· = "")) = [] := by
    rw [Family.own, List.filter_eq_nil_iff]
    intro s hs
    obtain ⟨u, hu, rfl⟩ := List.mem_map.mp hs
    have hu' : u = "" := by simpa using List.mem_rtakeWhile_imp hu
    rw [hu', show trim "" = "" by decide, Family.leads, List.isPrefixOf_iff_prefix,
      String.toList_empty, List.prefix_nil]
    exact (plus_iff.mp S.lead_word).1
  conv_rhs => rw [← List.rdropWhile_append_rtakeWhile (p := (· = "")) (l := list)]
  rw [own_append, hempty, List.append_nil]

/-- Written tags with readable values are read back when their values encode again. -/
theorem decode_signed {m : Record} {tags : TagInput}
    (hval : t.values h = .ok (fields, n)) (hd : t.family.digest fields n = .ok digest)
    (htoken : ∀ f ∈ fields, plus isTokenChar (text n f) = true)
    (hagain : t.values (signedRecord fields n digest) = .ok (fields, m))
    (hsame : ∀ f ∈ fields, text m f = text n f)
    (hown : (t.family.own tags.tags).Perm
      (fields.map (fun f => t.family.tag f (text n f)) ++ [t.family.tag .sha256 digest])) :
    t.decode tags = .ok (some (signedRecord fields n digest)) := by
  have hsf := signedFields_of_values hval
  have hsha : signedRecord fields n digest .sha256 = some digest := by
    rw [signedRecord, if_neg hsf.unsigned, if_pos rfl]
  have hpairs : fields.map (fun f => t.family.tag f (text n f)) ++ [t.family.tag .sha256 digest] =
      (fields.map (fun f => (f, text n f)) ++ [(Field.sha256, digest)]).map
        fun p => t.family.tag p.1 p.2 := by
    simp
  refine decode_eq_ok.mpr ⟨collect_complete t.family (hpairs ▸ hown) ?_ ?_ ?_ ?_, fields, m,
    hagain, ?_, ?_⟩
  · simp only [List.map_append, List.map_map, List.map_cons, List.map_nil, Function.comp_def,
      List.map_id']
    rw [List.nodup_append_comm]
    exact List.nodup_cons.mpr ⟨hsf.unsigned, hsf.nodup⟩
  · intro p hp
    simp only [List.mem_append, List.mem_map, List.mem_singleton] at hp
    rcases hp with ⟨f, hf, rfl⟩ | rfl
    · exact hsf.known f hf
    · exact sha256_known
  · intro p hp
    rw [isValue_family]
    simp only [List.mem_append, List.mem_map, List.mem_singleton] at hp
    rcases hp with ⟨f, hf, rfl⟩ | rfl
    · exact htoken f hf
    · exact digest_token hd
  · intro f v
    simp only [signedRecord, List.mem_append, List.mem_map, Prod.mk.injEq, List.mem_singleton]
    split_ifs with hf hs
    · constructor
      · intro he
        exact Or.inl ⟨f, hf, rfl, Option.some.inj he⟩
      · rintro (⟨g, hg, rfl, rfl⟩ | ⟨rfl, -⟩)
        · rfl
        · exact absurd hf hsf.unsigned
    · constructor
      · intro he
        exact Or.inr ⟨hs, (Option.some.inj he).symm⟩
      · rintro (⟨g, hg, rfl, -⟩ | ⟨-, rfl⟩)
        · exact absurd hg hf
        · rfl
    · constructor
      · intro he
        cases he
      · rintro (⟨g, hg, rfl, -⟩ | ⟨rfl, -⟩)
        · exact absurd hg hf
        · exact absurd rfl hs
  · rw [digest_congr hsame, hd, text, hsha]
    rfl
  · intro f
    simp only [signedRecord]
    split_ifs with hf hs
    · simp [hf]
    · simp [hs]
    · simp [hf, hs]

/-- The number a digit string stands for. -/
def digitsValue (s : String) : Nat := Nat.ofDigitChars 10 (s.toList.takeWhile Char.isDigit) 0

theorem numify_of_large {s : String} (hge : ¬ digitsValue s < 2 ^ 64) :
    numify s = toDouble (digitsValue s) :=
  if_neg hge

theorem fitsWord_iff {s : String} : FitsWord s ↔ digitsValue s < 2 ^ 64 := by
  constructor
  · rintro ⟨m, hm, hnum⟩
    by_contra hge
    rw [numify_of_large hge, toDouble] at hnum
    split_ifs at hnum
  · intro hlt
    exact ⟨_, hlt, if_pos hlt⟩

/-- What makes written tags readable: nothing signed as given ends in a line feed, and a
signed byte size fits in 64 bits. -/
def Readable (t : TagFamily) (h : Record) : Prop :=
  (∀ f ∈ t.fieldsOf h, t.treatment f = .asGiven → ¬ EndsInNewline (t.given h f)) ∧
    (.bytes ∈ t.fieldsOf h → digitsValue (text h .bytes) < 2 ^ 64)

/-- Written tags of readable values are all read, each as one piece. -/
theorem token_of_readable {tags : List String} (hok : t.encode h = .ok tags)
    (hread : Readable t h) : ∃ pairs : List (Field × String),
      tags = pairs.map (fun p => t.family.tag p.1 p.2) ∧ ∀ p ∈ pairs, plus isTokenChar p.2 = true := by
  obtain ⟨fields, n, digest, hval, hd, rfl⟩ := encode_eq_ok.mp hok
  rw [Readable, ← fieldsOf_values hval] at hread
  refine ⟨fields.map (fun f => (f, text n f)) ++ [(.sha256, digest)], by simp, fun p hp => ?_⟩
  simp only [List.mem_append, List.mem_map, List.mem_singleton] at hp
  rcases hp with ⟨f, hf, rfl⟩ | rfl
  · exact (normal_token_iff hval hd hf).mpr (hread.1 f hf)
  · exact digest_token hd

theorem own_written {tags : List String} (hok : t.encode h = .ok tags) (hread : Readable t h) :
    t.family.own tags = tags := by
  obtain ⟨pairs, rfl, htoken⟩ := token_of_readable hok hread
  refine own_tags t.family fun p hp => ?_
  rw [isValue_family]
  exact htoken p hp

/-- Wherever the family's tags are exactly the written ones, the decoder reads the normalised
values and the digest, and they are written the same way again. -/
theorem decode_written {tags : List String} {input : TagInput} (hok : t.encode h = .ok tags)
    (hread : Readable t h) (hown : (t.family.own input.tags).Perm tags) :
    ∃ fields n digest, t.values h = .ok (fields, n) ∧ t.family.digest fields n = .ok digest ∧
      t.decode input = .ok (some (signedRecord fields n digest)) ∧
      t.encode (signedRecord fields n digest) = .ok tags := by
  obtain ⟨fields, n, digest, hval, hd, rfl⟩ := encode_eq_ok.mp hok
  rw [Readable, ← fieldsOf_values hval] at hread
  have htoken : ∀ f ∈ fields, plus isTokenChar (text n f) = true := fun f hf =>
    (normal_token_iff hval hd hf).mpr (hread.1 f hf)
  have hbytes : .bytes ∈ fields → FitsWord (text h .bytes) := fun hb =>
    fitsWord_iff.mpr (hread.2 hb)
  have hr : ∀ f ∈ fields, signedRecord fields n digest f = some (text n f) := fun f hf =>
    if_pos hf
  have hnone : ∀ f, f ∉ fields → f ≠ .sha256 → signedRecord fields n digest f = none :=
    fun f hf hs => by rw [signedRecord, if_neg hf, if_neg hs]
  obtain ⟨m, hm⟩ := values_again hval hbytes hr hnone
  have hsame : ∀ f ∈ fields, text m f = text n f := fun f hf =>
    normal_again hval hbytes hr hm hf
  refine ⟨fields, n, digest, hval, hd, decode_signed hval hd htoken hm hsame hown, ?_⟩
  have htags : fields.map (fun f => t.family.tag f (text m f)) =
      fields.map (fun f => t.family.tag f (text n f)) :=
    List.map_congr_left fun f hf => by rw [hsame f hf]
  exact encode_eq_ok.mpr ⟨fields, m, digest, hm, by rw [digest_congr hsame, hd], by rw [htags]⟩

theorem roundTrips_of_readable {tags : List String} (hok : t.encode h = .ok tags)
    (hread : Readable t h) : RoundTrips t h := by
  have hread' (list : List String) (hown : (t.family.own list).Perm tags)
      (hcomma : ∀ s ∈ list, ',' ∉ s.toList) : (t.family.own
        (TagInput.scalar (some (String.intercalate "," list))).tags).Perm tags := by
    change (t.family.own (splitOn ',' (String.intercalate "," list))).Perm _
    rwa [show "," = String.singleton ',' from rfl, splitOn_intercalate hcomma, own_rdropWhile]
  have hplain : (t.family.own (TagInput.array tags).tags).Perm tags := by
    rw [TagInput.tags, own_written hok hread]
  obtain ⟨fields, n, digest, hval, hd, -, -⟩ := decode_written hok hread hplain
  refine ⟨fields, n, digest, tags, hval, hd, hok, fun foreign list hforeign hperm => ?_⟩
  have hskip : t.family.own foreign = [] := by
    rw [Family.own, List.filter_eq_nil_iff]
    intro s hs
    obtain ⟨u, hu, rfl⟩ := List.mem_map.mp hs
    simp [(hforeign u hu).2]
  have hown : (t.family.own list).Perm tags := by
    have := own_perm t.family hperm
    rwa [own_append, hskip, own_written hok hread, List.append_nil] at this
  have hcomma : ∀ s ∈ list, ',' ∉ s.toList := by
    obtain ⟨pairs, rfl, htoken⟩ := token_of_readable hok hread
    intro s hs
    simp only [hperm.mem_iff, List.mem_append, List.mem_map] at hs
    rcases hs with ⟨p, hp, rfl⟩ | hs
    · exact tag_no_comma (htoken p hp)
    · exact (hforeign s hs).1
  obtain ⟨fields', n', digest', hval', hd', hdec, -⟩ :=
    decode_written hok hread (hread' list hown hcomma)
  obtain ⟨rfl, rfl⟩ := Prod.mk.inj (Except.ok.inj (hval.symm.trans hval'))
  obtain rfl := Except.ok.inj (hd.symm.trans hd')
  exact hdec

theorem bytes_integer (hval : t.values h = .ok (fields, n)) (hb : .bytes ∈ fields) :
    t.treatment .bytes = .integer := by
  have hknown := (signedFields_of_values hval).known _ hb
  revert hknown
  cases t <;> decide

theorem readable_of_roundTrips (hrt : RoundTrips t h) : Readable t h := by
  obtain ⟨fields, n, digest, tags, hval, hd, hok, hdec⟩ := hrt
  have hsf := signedFields_of_values hval
  obtain ⟨hcol, fields', m, hs⟩ := decode_eq_ok.mp
    (hdec [] tags (by simp) (by rw [List.append_nil]))
  have hr : ∀ f ∈ fields, signedRecord fields n digest f = some (text n f) := fun f hf =>
    if_pos hf
  have hread := (collect_sound t.family hcol).1
  rw [Readable, ← fieldsOf_values hval]
  refine ⟨fun f hf ht => ?_, fun hb => ?_⟩
  · have hv := (hread f _ (hr f hf)).2
    rw [isValue_family] at hv
    exact (normal_token_iff hval hd hf).mp hv ht
  · have hint := bytes_integer hval hb
    have hb' : .bytes ∈ fields' := by
      have := (hs.complete .bytes).mp (by rw [hr .bytes hb]; rfl)
      exact this.resolve_right (by decide)
    obtain ⟨-, ⟨bad, hbad⟩, -⟩ := integer_of_values hs.values hb' hint
    have hdigits := (defined_of_badNumber hbad).2
    by_contra hge
    rw [text, hr .bytes hb, Option.getD_some, text_normal hval hb, hint, Treatment.apply,
      (integer_of_values hval hb hint).1, numify_of_large hge] at hdigits
    exact absurd hdigits (by rw [text_toDouble_not_isDigits]; decide)

/-- Decoding undoes encoding for an accepted record exactly when nothing it signs as given
ends in a line feed and its byte size, if it has one, fits in 64 bits. -/
theorem roundTrips_iff_readable (t : TagFamily) (h : Record)
    (hok : ∃ tags, t.encode h = .ok tags) : RoundTrips t h ↔ Readable t h :=
  ⟨readable_of_roundTrips, fun hread => roundTrips_of_readable hok.choose_spec hread⟩

end

/-! ## Writing back what was read -/

section
variable {t : TagFamily} {r r' n : Record} {fields : List Field} {f : Field} {tags tags' : TagInput}

/-- Encoding the decoded record gives the family's tags of the list, as a set. -/
def Rewrites (t : TagFamily) (tags : TagInput) (r : Record) : Prop :=
  ∃ again, t.encode r = .ok again ∧ ∀ s, s ∈ again ↔ s ∈ t.family.own tags.tags

/-- Every tag of the family is spelled as the encoder would spell it. -/
def CanonicalTags (t : TagFamily) (tags : TagInput) : Prop :=
  ∀ f v, t.family.tag f v ∈ t.family.own tags.tags → (t.treatment f).Canonical v

theorem mem_own_iff (hcol : t.family.collect tags.tags = .ok r) {f : Field} {v : String} :
    t.family.tag f v ∈ t.family.own tags.tags ↔ r f = some v := by
  rw [(collect_sound t.family hcol).2]
  constructor
  · rintro ⟨g, w, heq, hg⟩
    obtain ⟨rfl, rfl⟩ := tag_injective t.family heq
    exact hg
  · exact fun hf => ⟨f, v, rfl, hf⟩

theorem rewrites_iff (hcol : t.family.collect tags.tags = .ok r)
    (hs : SelfSigned t r fields n) :
    Rewrites t tags r ↔ ∀ f ∈ fields, r f = some (text n f) := by
  have hsha : r .sha256 = some (text r .sha256) := by
    obtain ⟨v, hv⟩ := Option.isSome_iff_exists.mp ((hs.complete .sha256).mpr (Or.inr rfl))
    simp [text, hv]
  have hmem : ∀ f v, t.family.tag f v ∈ fields.map (fun f => t.family.tag f (text n f)) ++
      [t.family.tag .sha256 (text r .sha256)] ↔
      (f ∈ fields ∧ v = text n f) ∨ (f = .sha256 ∧ v = text r .sha256) := by
    intro f v
    simp only [List.mem_append, List.mem_map, List.mem_singleton]
    constructor
    · rintro (⟨g, hg, heq⟩ | heq)
      · obtain ⟨rfl, rfl⟩ := tag_injective t.family heq
        exact Or.inl ⟨hg, rfl⟩
      · obtain ⟨rfl, rfl⟩ := tag_injective t.family heq
        exact Or.inr ⟨rfl, rfl⟩
    · rintro (⟨hf, rfl⟩ | ⟨rfl, rfl⟩)
      · exact Or.inl ⟨f, hf, rfl⟩
      · exact Or.inr rfl
  have hencode : t.encode r = .ok (fields.map (fun f => t.family.tag f (text n f)) ++
      [t.family.tag .sha256 (text r .sha256)]) :=
    encode_eq_ok.mpr ⟨fields, n, _, hs.values, hs.digest, rfl⟩
  constructor
  · rintro ⟨again, hag, hset⟩ f hf
    obtain rfl := Except.ok.inj (hencode.symm.trans hag)
    exact (mem_own_iff hcol).mp ((hset _).mp ((hmem _ _).mpr (Or.inl ⟨hf, rfl⟩)))
  · intro hr
    refine ⟨_, hencode, fun s => ⟨fun hmem' => ?_, fun hown => ?_⟩⟩
    · simp only [List.mem_append, List.mem_map, List.mem_singleton] at hmem'
      rcases hmem' with ⟨f, hf, rfl⟩ | rfl
      · exact (mem_own_iff hcol).mpr (hr f hf)
      · exact (mem_own_iff hcol).mpr hsha
    · obtain ⟨f, v, rfl, hv⟩ := ((collect_sound t.family hcol).2 s).mp hown
      refine (hmem f v).mpr ?_
      rcases (hs.complete f).mp (by rw [hv]; rfl) with hf | rfl
      · exact Or.inl ⟨hf, Option.some.inj (hv.symm.trans (hr f hf))⟩
      · exact Or.inr ⟨rfl, Option.some.inj (hv.symm.trans hsha)⟩

/-- On a readable value the treatment is the identity exactly on canonical spellings. -/
theorem canonical_iff {v : String} (hcol : t.family.collect tags.tags = .ok r)
    (hs : SelfSigned t r fields n) (hf : f ∈ fields) (hv : r f = some v) :
    r f = some (text n f) ↔ (t.treatment f).Canonical v := by
  have htoken : plus isTokenChar v = true := by
    have := ((collect_sound t.family hcol).1 f v hv).2
    rwa [isValue_family] at this
  have hgiven : t.given r f = v := by
    rw [TagFamily.given]
    split_ifs with h
    · subst h
      rw [hv]
      rfl
    · rw [text, hv]
      rfl
  rw [text_normal hs.values hf, hgiven, hv, Option.some.injEq, eq_comm]
  cases ht : t.treatment f with
  | asGiven => simp [Treatment.apply, Treatment.Canonical]
  | capture => simp [Treatment.apply, Treatment.Canonical, body_of_plus htoken]
  | upper => simp [Treatment.apply, Treatment.Canonical, body_of_plus htoken]
  | integer =>
    obtain ⟨-, ⟨bad, hbad⟩, -⟩ := integer_of_values hs.values hf ht
    have hdigits := (defined_of_badNumber hbad).2
    rw [text, hv, Option.getD_some, isDigits, body_of_plus htoken, plus_iff] at hdigits
    refine text_numify_eq_self_iff (fun c hc => ?_) hdigits.1
    exact isDigit_of_latin1 (hdigits.2 c hc)
      (lt_trans (isTokenChar_ascii ((plus_iff.mp htoken).2 c hc)) (by decide))
  | fixed c => simp [Treatment.apply, Treatment.Canonical, eq_comm]

theorem rewrites_iff_canonical (hok : t.decode tags = .ok (some r)) :
    Rewrites t tags r ↔ CanonicalTags t tags := by
  obtain ⟨hcol, fields, n, hs⟩ := decode_eq_ok.mp hok
  rw [rewrites_iff hcol hs, CanonicalTags]
  constructor
  · intro hr f v hown
    have hv := (mem_own_iff hcol).mp hown
    rcases (hs.complete f).mp (by rw [hv]; rfl) with hf | rfl
    · exact (canonical_iff hcol hs hf hv).mp (hr f hf)
    · cases t <;> trivial
  · intro hcan f hf
    obtain ⟨v, hv⟩ := Option.isSome_iff_exists.mp ((hs.complete f).mpr (Or.inl hf))
    exact (canonical_iff hcol hs hf hv).mpr (hcan f v ((mem_own_iff hcol).mpr hv))

/-- The text whose digest a decoder compares. -/
def signedText (t : TagFamily) (r : Record) : Except String String := do
  let (fields, n) ← t.values r
  return t.family.canonical fields n

/-- The truncated digest of a text. -/
def shortDigest (s : String) : Except String String := do
  let hex ← Sha256.sha256Hex s
  return String.ofList (hex.toList.take 32)

/-- Two lists in canonical spelling that carry the same digest tag hold the same tags, or
their canonical texts collide under the truncated digest. -/
theorem same_own_or_collision (hok : t.decode tags = .ok (some r))
    (hok' : t.decode tags' = .ok (some r')) (hcan : CanonicalTags t tags)
    (hcan' : CanonicalTags t tags') (hsha : r' .sha256 = r .sha256) :
    (∀ s, s ∈ t.family.own tags'.tags ↔ s ∈ t.family.own tags.tags) ∨
      ∃ c c', signedText t r = .ok c ∧ signedText t r' = .ok c' ∧ c ≠ c' ∧
        shortDigest c = shortDigest c' := by
  have hr := (rewrites_iff_canonical hok).mpr hcan
  have hr' := (rewrites_iff_canonical hok').mpr hcan'
  obtain ⟨hcol, fields, n, hs⟩ := decode_eq_ok.mp hok
  obtain ⟨hcol', fields', n', hs'⟩ := decode_eq_ok.mp hok'
  rw [rewrites_iff hcol hs] at hr
  rw [rewrites_iff hcol' hs'] at hr'
  have htext : signedText t r = .ok (t.family.canonical fields n) := by
    simp only [signedText, hs.values]
    rfl
  have htext' : signedText t r' = .ok (t.family.canonical fields' n') := by
    simp only [signedText, hs'.values]
    rfl
  by_cases heq : t.family.canonical fields n = t.family.canonical fields' n'
  · left
    have hbar : ∀ {k : Record} {u : TagInput} {fs : List Field} {m : Record},
        t.family.collect u.tags = .ok k → (∀ f ∈ fs, k f = some (text m f)) →
        ∀ f ∈ fs, '|' ∉ (text m f).toList := by
      intro k u fs m hk hkr f hf hc
      have := ((collect_sound t.family hk).1 f _ (hkr f hf)).2
      rw [isValue_family] at this
      exact absurd ((plus_iff.mp this).2 _ hc) (by decide)
    obtain ⟨rfl, hsame⟩ := canonical_injective t.family (signedFields_of_values hs.values).nonempty
      (signedFields_of_values hs'.values).nonempty (hbar hcol hr) (hbar hcol' hr') heq
    have hrec : r' = r := by
      funext f
      by_cases hf : f ∈ fields
      · rw [hr f hf, hr' f hf, hsame f hf]
      · by_cases hfs : f = .sha256
        · rw [hfs, hsha]
        · have hnone : ∀ {k : Record} {m : Record}, SelfSigned t k fields m → k f = none :=
            fun hk => by
              rw [← Option.not_isSome_iff_eq_none, hk.complete]
              simp [hf, hfs]
          rw [hnone hs, hnone hs']
    subst hrec
    intro s
    rw [(collect_sound t.family hcol).2, (collect_sound t.family hcol').2]
  · right
    refine ⟨_, _, htext, htext', heq, ?_⟩
    have hd := hs.digest
    have hd' := hs'.digest
    rw [text, hsha] at hd'
    exact hd.trans hd'.symm

/-- Re-encoding an accepted list gives its tags back exactly when they are spelled
canonically; and for canonical spellings a changed tag under the same digest tag would be
a collision of the truncated digest. -/
theorem decode_canonical_iff (t : TagFamily) :
    (∀ (tags : TagInput) (r : Record), t.decode tags = .ok (some r) →
      (Rewrites t tags r ↔ CanonicalTags t tags)) ∧
    (∀ (tags tags' : TagInput) (r r' : Record),
      t.decode tags = .ok (some r) → t.decode tags' = .ok (some r') →
      CanonicalTags t tags → CanonicalTags t tags' →
      (∀ d, t.family.tag .sha256 d ∈ t.family.own tags.tags →
        t.family.tag .sha256 d ∈ t.family.own tags'.tags) →
      (∀ s, s ∈ t.family.own tags'.tags ↔ s ∈ t.family.own tags.tags) ∨
        ∃ c c', signedText t r = .ok c ∧ signedText t r' = .ok c' ∧ c ≠ c' ∧
          shortDigest c = shortDigest c') := by
  refine ⟨fun tags r hok => rewrites_iff_canonical hok,
    fun tags tags' r r' hok hok' hcan hcan' hsha => ?_⟩
  obtain ⟨hcol, fields, n, hs⟩ := decode_eq_ok.mp hok
  obtain ⟨hcol', -⟩ := decode_eq_ok.mp hok'
  obtain ⟨d, hd⟩ := Option.isSome_iff_exists.mp ((hs.complete .sha256).mpr (Or.inr rfl))
  refine same_own_or_collision hok hok' hcan hcan' ?_
  rw [hd]
  exact (mem_own_iff hcol').mp (hsha d ((mem_own_iff hcol).mpr hd))

end

/-- A prepared allocation with a given storage name. -/
def allocAnchor (sid : String) : Record := hashOf
  [(.v, "5"), (.sid, sid), (.vol, "vm-100-disk-0"), (.phase, "PREPARED"),
    (.tx, "00000000000000000000000000000001"), (.op, "ALLOC"), (.snapshot, "none"),
    (.source, "gen0"), (.old, "gen0"), (.new, "gen0"), (.head, "gen0"), (.generation, "0"),
    (.region, "8")]

/-- The tags written for `allocAnchor "store"`, with the operation spelled as given. -/
def allocTags (op : String) : TagInput := .array
  ["slt_tg_v=5", "slt_tg_sid=store", "slt_tg_vol=vm-100-disk-0", "slt_tg_phase=PREPARED",
    "slt_tg_tx=00000000000000000000000000000001", "slt_tg_op=" ++ op, "slt_tg_snapshot=none",
    "slt_tg_source=gen0", "slt_tg_old=gen0", "slt_tg_new=gen0", "slt_tg_head=gen0",
    "slt_tg_generation=0", "slt_tg_region=8", "slt_tg_sha256=e15568c1c9a3ef7eb51499d3ea9324a2"]

theorem roundTrips_alloc : RoundTrips .anchor (allocAnchor "store") := by
  refine (roundTrips_iff_readable .anchor _ (accepted_of_values (by decide +kernel))).mpr ⟨?_, ?_⟩
  · decide
  · decide

/-- A storage name with a final line feed is signed as given but trimmed on reading. -/
theorem not_roundTrips_newline :
    (∃ tags, TagFamily.anchor.encode (allocAnchor "store\n") = .ok tags) ∧
      ¬ RoundTrips .anchor (allocAnchor "store\n") := by
  refine ⟨accepted_of_values (by decide +kernel), fun hrt => ?_⟩
  exact (readable_of_roundTrips hrt).1 .sid (by decide) (by decide) (by decide)

/-- What `allocTags` spells out. -/
def allocPairs (op : String) : List (Field × String) :=
  [(.v, "5"), (.sid, "store"), (.vol, "vm-100-disk-0"), (.phase, "PREPARED"),
    (.tx, "00000000000000000000000000000001"), (.op, op), (.snapshot, "none"), (.source, "gen0"),
    (.old, "gen0"), (.new, "gen0"), (.head, "gen0"), (.generation, "0"), (.region, "8"),
    (.sha256, "e15568c1c9a3ef7eb51499d3ea9324a2")]

theorem hashOf_eq_some {pairs : List (Field × String)} (hnodup : (pairs.map Prod.fst).Nodup)
    {f : Field} {v : String} : hashOf pairs f = some v ↔ (f, v) ∈ pairs := by
  rw [hashOf, List.lookup_eq_some_iff]
  constructor
  · rintro ⟨before, after, rfl, -⟩
    exact List.mem_append_right _ List.mem_cons_self
  · intro hmem
    obtain ⟨before, after, rfl⟩ := List.append_of_mem hmem
    refine ⟨before, after, rfl, fun p hp => ?_⟩
    rw [List.map_append, List.map_cons, List.nodup_append] at hnodup
    have hne := hnodup.2.2 p.1 (List.mem_map_of_mem hp) f List.mem_cons_self
    exact bne_iff_ne.mpr (Ne.symm hne)

theorem digest_alloc : anchorFamily.digest anchorFieldsV5 (allocAnchor "store") =
    .ok "e15568c1c9a3ef7eb51499d3ea9324a2" := by
  have hchars : (anchorFamily.canonical anchorFieldsV5 (allocAnchor "store")).toList =
      ['|'].intercalate (anchorFieldsV5.map fun f =>
        (anchorFamily.name f).toList ++ '=' :: (text (allocAnchor "store") f).toList) := by
    rw [Alphabet.canonical, String.toList_intercalate, List.map_map]
    refine congrArg _ (List.map_congr_left fun f _ => ?_)
    simp [String.toList_append]
  have hhex := Sha256.sha256Hex_of_toList hchars (by decide +kernel)
  rw [Alphabet.digest, hhex]
  change Except.ok (String.ofList (String.toList (String.ofList _) |>.take 32)) = _
  rw [String.toList_ofList]
  decide +kernel

-- An instance is evaluated before what follows it.
instance alloc_read : Fact (∀ op ∈ ["ALLOC", "alloc"],
    (anchorFamily.own (allocTags op).tags =
      (allocPairs op).map fun p => anchorFamily.tag p.1 p.2) ∧
    (∀ p ∈ allocPairs op, plus anchorFamily.isValue p.2 = true) ∧
    (TagFamily.anchor.values (hashOf (allocPairs op))).toOption.any (fun p =>
      decide (p.1 = anchorFieldsV5) &&
        p.1.all fun f => decide (text p.2 f = text (allocAnchor "store") f)) = true) :=
  ⟨by decide +kernel⟩

theorem values_alloc {op : String} (hop : op ∈ ["ALLOC", "alloc"]) :
    ∃ n, TagFamily.anchor.values (hashOf (allocPairs op)) = .ok (anchorFieldsV5, n) ∧
      ∀ f ∈ anchorFieldsV5, text n f = text (allocAnchor "store") f := by
  obtain ⟨-, -, hvalues⟩ := alloc_read.out op hop
  cases hval : TagFamily.anchor.values (hashOf (allocPairs op)) with
  | error message => simp [hval, Except.toOption] at hvalues
  | ok p =>
    obtain ⟨fields, n⟩ := p
    simp only [hval, Except.toOption, Option.any_some, Bool.and_eq_true, decide_eq_true_eq,
      List.all_eq_true] at hvalues
    obtain ⟨rfl, hsame⟩ := hvalues
    exact ⟨n, rfl, hsame⟩

/-- Both spellings of the operation are read under the digest of the canonical one. -/
theorem decode_spelled_alloc {op : String} (hop : op ∈ ["ALLOC", "alloc"]) :
    TagFamily.anchor.decode (allocTags op) = .ok (some (hashOf (allocPairs op))) := by
  have hnames : (allocPairs op).map Prod.fst = anchorFieldsV5 ++ [.sha256] := rfl
  have hnodup : ((allocPairs op).map Prod.fst).Nodup := by
    rw [hnames]
    decide
  have hknown : ∀ f ∈ anchorFieldsV5 ++ [.sha256], f ∈ anchorFamily.known := by decide
  obtain ⟨hown, hvalue, -⟩ := alloc_read.out op hop
  obtain ⟨n, hval, hsame⟩ := values_alloc hop
  refine decode_eq_ok.mpr ⟨collect_complete anchorFamily (.of_eq hown) hnodup ?_
    hvalue fun f v => ?_, anchorFieldsV5, n, hval, ?_, fun f => ?_⟩
  · intro p hp
    exact hknown _ (hnames ▸ List.mem_map_of_mem hp)
  · exact hashOf_eq_some hnodup
  · exact (digest_congr hsame).trans digest_alloc
  · have hnamed : f ∈ anchorFieldsV5 ++ [.sha256] ↔ ∃ v, (f, v) ∈ allocPairs op := by
      rw [← hnames]
      simp
    rw [Option.isSome_iff_exists]
    simp only [hashOf_eq_some hnodup, ← hnamed, List.mem_append, List.mem_singleton]

theorem canonicalTags_alloc : CanonicalTags .anchor (allocTags "ALLOC") := by
  have hcan : ∀ p ∈ allocPairs "ALLOC", (TagFamily.anchor.treatment p.1).Canonical p.2 := by
    decide
  intro f v hmem
  change anchorFamily.tag f v ∈ anchorFamily.own (allocTags "ALLOC").tags at hmem
  rw [(alloc_read.out "ALLOC" (by decide)).1, List.mem_map] at hmem
  obtain ⟨p, hp, heq⟩ := hmem
  obtain ⟨rfl, rfl⟩ := tag_injective anchorFamily heq
  exact hcan p hp

theorem decode_canonical_alloc :
    ∃ r, TagFamily.anchor.decode (allocTags "ALLOC") = .ok (some r) ∧
      Rewrites .anchor (allocTags "ALLOC") r := by
  have hr := @decode_spelled_alloc "ALLOC" (by decide)
  exact ⟨_, hr, ((decode_canonical_iff .anchor).1 _ _ hr).mpr canonicalTags_alloc⟩

/-- The operation in lower case is accepted under the digest of the canonical spelling. -/
theorem decode_alloc_not_rewrites :
    (∃ r, TagFamily.anchor.decode (allocTags "ALLOC") = .ok (some r)) ∧
    ∃ r, TagFamily.anchor.decode (allocTags "alloc") = .ok (some r) ∧
      ¬ Rewrites .anchor (allocTags "alloc") r := by
  have hr := @decode_spelled_alloc "alloc" (by decide)
  refine ⟨⟨_, @decode_spelled_alloc "ALLOC" (by decide)⟩, _, hr, fun hrew => ?_⟩
  have hcan := (rewrites_iff_canonical hr).mp hrew
  exact absurd (hcan .op "alloc" (by decide +kernel)) (by decide)

end SharedLvmThin.Thick
