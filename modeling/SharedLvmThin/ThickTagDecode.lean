import SharedLvmThin.ThickAnchorSteps

/-!
# What the Thick decoders accept

The five tag families under one description: a family has an encoder that validates and
normalises a record, and a decoder that accepts a tag list exactly when the collected
record is complete and carries the digest of its own normalisation.
-/

namespace SharedLvmThin.Thick
open Perl TagCodec

inductive TagFamily
  | anchor | generation | lazyObject | transition | vgIntent
deriving DecidableEq

namespace TagFamily

def family : TagFamily → Family Field
  | .anchor => anchorFamily
  | .generation => generationFamily
  | .lazyObject => lazyObjectFamily
  | .transition => transitionFamily
  | .vgIntent => vgIntentFamily

/-- Field order and normalised values an encoder signs. -/
def values : TagFamily → Record → Except String (List Field × Record)
  | .anchor => anchorValues
  | .generation => generationValues
  | .lazyObject => lazyObjectValues
  | .transition => transitionValues
  | .vgIntent => vgIntentValues

def encode : TagFamily → Record → Except String (List String)
  | .anchor => anchorTags
  | .generation => generationTags
  | .lazyObject => lazyObjectTags
  | .transition => transitionTags
  | .vgIntent => vgIntentTags

/-- Only the intent decoder can succeed without a record. -/
def decode : TagFamily → TagInput → Except String (Option Record)
  | .anchor, tags => (decodeAnchorTags tags).map some
  | .generation, tags => (decodeGenerationTags tags).map some
  | .lazyObject, tags => (decodeLazyObjectTags tags).map some
  | .transition, tags => (decodeTransitionTags tags).map some
  | .vgIntent, tags => decodeVgIntentTags tags

end TagFamily

section
variable {t : TagFamily} {h n r : Record} {fields : List Field}

theorem encode_eq_ok {tags : List String} :
    t.encode h = .ok tags ↔ ∃ fields n digest, t.values h = .ok (fields, n) ∧
      t.family.digest fields n = .ok digest ∧
      tags = fields.map (fun f => t.family.tag f (text n f)) ++ [t.family.tag .sha256 digest] := by
  have hdef : t.encode h = (t.values h >>= fun p => t.family.signedTags .sha256 p.1 p.2) := by
    cases t <;> rfl
  simp only [hdef, bind_eq_ok, Prod.exists, Family.signedTags, pure_eq_ok]
  constructor
  · rintro ⟨fields, n, hval, digest, hd, rfl⟩
    exact ⟨fields, n, digest, hval, hd, rfl⟩
  · rintro ⟨fields, n, digest, hval, hd, rfl⟩
    exact ⟨fields, n, hval, digest, hd, rfl⟩

/-- The fields a family signs are distinct, known and do not include the digest. -/
structure SignedFields (t : TagFamily) (fields : List Field) : Prop where
  nodup : fields.Nodup
  known : ∀ f ∈ fields, f ∈ t.family.known
  unsigned : Field.sha256 ∉ fields
  nonempty : fields ≠ []

theorem signedFields_of_values (hval : t.values h = .ok (fields, n)) : SignedFields t fields := by
  cases t with
  | anchor =>
    rcases anchorValues_eq_ok.mp hval with ⟨-, rfl, -⟩ | ⟨-, rfl, -⟩ <;>
      exact ⟨by decide, by decide, by decide, by decide⟩
  | generation =>
    obtain ⟨-, rfl, -⟩ := generationValues_eq_ok.mp hval
    rw [generationFields]
    split_ifs <;> exact ⟨by decide, by decide, by decide, by decide⟩
  | lazyObject =>
    obtain ⟨-, rfl, -⟩ := lazyObjectValues_eq_ok.mp hval
    exact ⟨by decide, by decide, by decide, by decide⟩
  | transition =>
    obtain ⟨-, rfl, -⟩ := transitionValues_eq_ok.mp hval
    exact ⟨by decide, by decide, by decide, by decide⟩
  | vgIntent =>
    obtain ⟨-, rfl, -⟩ := vgIntentValues_eq_ok.mp hval
    exact ⟨by decide, by decide, by decide, by decide⟩

theorem sha256_known : Field.sha256 ∈ t.family.known := by
  cases t <;> decide

theorem isValue_family : t.family.isValue = isTokenChar := by
  cases t <;> rfl

theorem isPrefixOf_tag {S : Family Field} {f g : Field} {v : String} :
    (S.tag g "").toList.isPrefixOf (S.tag f v).toList = true ↔ f = g := by
  rw [List.isPrefixOf_iff_prefix]
  constructor
  · rintro ⟨rest, hrest⟩
    have : S.tag g (String.ofList rest) = S.tag f v := by
      rw [← String.toList_inj, ← hrest, tag_toList, tag_toList]
      simp
    exact (tag_injective S this).1.symm
  · rintro rfl
    rw [tag_toList, tag_toList]
    exact ⟨v.toList, by simp⟩

theorem signatureOf_signed {S : Family Field} {digest : String} (hf : Field.sha256 ∉ fields) :
    signatureOf S (fields.map (fun f => S.tag f (text n f)) ++ [S.tag .sha256 digest]) =
      digest := by
  have hnone : (fields.map fun f => S.tag f (text n f)).filter
      (fun s => (S.tag .sha256 "").toList.isPrefixOf s.toList) = [] := by
    rw [List.filter_eq_nil_iff]
    intro s hs
    obtain ⟨f, hmem, rfl⟩ := List.mem_map.mp hs
    rw [isPrefixOf_tag]
    rintro rfl
    exact hf hmem
  have hself : (S.tag .sha256 "").toList.isPrefixOf (S.tag .sha256 digest).toList = true :=
    isPrefixOf_tag.mpr rfl
  simp only [signatureOf, List.filter_append, hnone, List.nil_append, List.filter_cons, hself,
    if_true, List.filter_nil, List.map_cons, List.map_nil, List.headD_cons]
  have hsplit : (S.tag .sha256 digest).toList = (S.tag .sha256 "").toList ++ digest.toList := by
    simp [tag_toList]
  rw [hsplit, List.drop_left, String.ofList_toList]

theorem isComplete_iff {required : List Field} (hnodup : required.Nodup) :
    isComplete required r = true ↔ ∀ f, (r f).isSome ↔ f ∈ required := by
  have hcount : keyCount r = (Field.all.filter fun f => (r f).isSome).length :=
    List.countP_eq_length_filter
  have hall : (Field.all.filter fun f => (r f).isSome).Nodup :=
    (show Field.all.Nodup by decide).filter _
  have hmem : ∀ f, f ∈ Field.all.filter (fun f => (r f).isSome) ↔ (r f).isSome := fun f => by
    simp [Field.mem_all]
  simp only [isComplete, Bool.and_eq_true, decide_eq_true_eq, List.all_eq_true, hcount]
  constructor
  · rintro ⟨hlen, hreq⟩ f
    have hsub : required.Subperm (Field.all.filter fun f => (r f).isSome) :=
      hnodup.subperm fun f hf => (hmem f).mpr (hreq f hf)
    rw [← hmem, (hsub.perm_of_length_le (by omega)).mem_iff]
  · intro hiff
    have hperm : (Field.all.filter fun f => (r f).isSome).Perm required :=
      (List.perm_ext_iff_of_nodup hall hnodup).mpr fun f => (hmem f).trans (hiff f)
    exact ⟨hperm.length_eq, fun f hf => (hiff f).mpr hf⟩

/-- What a decoder has to find in the collected record. -/
structure SelfSigned (t : TagFamily) (r : Record) (fields : List Field) (n : Record) : Prop where
  values : t.values r = .ok (fields, n)
  digest : t.family.digest fields n = .ok (text r .sha256)
  complete : ∀ f, (r f).isSome ↔ f ∈ fields ∨ f = .sha256

theorem verifySigned_eq_ok {required : List Field} {incomplete mismatch : String} {k : Record}
    (hreq : ∀ fields n, t.values r = .ok (fields, n) → required.Perm (fields ++ [.sha256])) :
    verifySigned t.family required t.encode incomplete mismatch r = .ok k ↔
      k = r ∧ ∃ fields n, SelfSigned t r fields n := by
  have hnodup : ∀ fields n, t.values r = .ok (fields, n) → required.Nodup := by
    intro fields n hval
    have hsf := signedFields_of_values hval
    rw [(hreq fields n hval).nodup_iff, List.nodup_append_comm]
    exact List.nodup_cons.mpr ⟨hsf.unsigned, hsf.nodup⟩
  have hmem : ∀ fields n, t.values r = .ok (fields, n) →
      ∀ f, f ∈ required ↔ f ∈ fields ∨ f = .sha256 := by
    intro fields n hval f
    rw [(hreq fields n hval).mem_iff, List.mem_append, List.mem_singleton]
  simp only [verifySigned, bind_eq_ok, dieIf_eq_ok, pure_eq_ok, exists_const,
    Bool.not_eq_false', decide_eq_false_iff_not, not_not, ne_eq, encode_eq_ok]
  constructor
  · rintro ⟨hcomplete, _, ⟨fields, n, digest, hval, hd, rfl⟩, hsig, rfl⟩
    rw [signatureOf_signed (signedFields_of_values hval).unsigned] at hsig
    refine ⟨rfl, fields, n, hval, by rw [hsig]; exact hd, fun f => ?_⟩
    rw [(isComplete_iff (hnodup fields n hval)).mp hcomplete, hmem fields n hval]
  · rintro ⟨rfl, fields, n, hs⟩
    refine ⟨(isComplete_iff (hnodup fields n hs.values)).mpr fun f => ?_, _,
      ⟨fields, n, _, hs.values, hs.digest, rfl⟩, ?_, rfl⟩
    · rw [hs.complete, hmem fields n hs.values]
    · rw [signatureOf_signed (signedFields_of_values hs.values).unsigned]

theorem map_some_eq_ok {x : Except String Record} :
    x.map some = .ok (some r) ↔ x = .ok r := by
  cases x <;> simp [Except.map]

theorem decodeAnchorTags_eq_ok {tags : TagInput} :
    decodeAnchorTags tags = .ok r ↔
      anchorFamily.collect tags.tags = .ok r ∧ ∃ fields n, SelfSigned .anchor r fields n := by
  simp only [decodeAnchorTags, bind_eq_ok, dieIf_eq_ok, exists_const, anchorFields_eq_ok,
    Option.isNone_eq_false_iff]
  have hversion : ∀ values : Record, (values .v).isSome → text values .v = versionOf values := by
    intro values hv
    obtain ⟨w, hw⟩ := Option.isSome_iff_exists.mp hv
    simp [text, versionOf, hw]
  have hreq : ∀ values required, (values .v).isSome →
      (text values .v = "5" ∧ required = anchorFieldsV5 ∨
        text values .v = "6" ∧ required = anchorFieldsV6) →
      ∀ fields n, TagFamily.anchor.values values = .ok (fields, n) →
        (required ++ [Field.sha256]).Perm (fields ++ [.sha256]) := by
    intro values required hv hr fields n hval
    rw [hversion values hv] at hr
    rcases anchorValues_eq_ok.mp hval with ⟨h5, rfl, -⟩ | ⟨h6, rfl, -⟩
    · rcases hr with ⟨-, rfl⟩ | ⟨h6, -⟩
      · exact .refl _
      · exact absurd (h5.symm.trans h6) (by decide)
    · rcases hr with ⟨h5, -⟩ | ⟨-, rfl⟩
      · exact absurd (h5.symm.trans h6) (by decide)
      · exact .refl _
  constructor
  · rintro ⟨values, hcol, hv, required, hr, hver⟩
    obtain ⟨rfl, hs⟩ := (verifySigned_eq_ok (t := .anchor) (hreq values required hv hr)).mp hver
    exact ⟨hcol, hs⟩
  · rintro ⟨hcol, fields, n, hs⟩
    have hv : (r .v).isSome := by
      refine (hs.complete .v).mpr (Or.inl ?_)
      rcases anchorValues_eq_ok.mp hs.values with ⟨-, rfl, -⟩ | ⟨-, rfl, -⟩ <;> decide
    have hr : text r .v = "5" ∧ fields = anchorFieldsV5 ∨
        text r .v = "6" ∧ fields = anchorFieldsV6 := by
      rw [hversion r hv]
      rcases anchorValues_eq_ok.mp hs.values with ⟨h5, rfl, -⟩ | ⟨h6, rfl, -⟩
      · exact Or.inl ⟨h5, rfl⟩
      · exact Or.inr ⟨h6, rfl⟩
    exact ⟨r, hcol, hv, fields, hr,
      (verifySigned_eq_ok (t := .anchor) (hreq r fields hv hr)).mpr ⟨rfl, fields, n, hs⟩⟩

/-- The common decoder body: collect, then verify against the required fields. -/
theorem collectVerify_eq_ok {tags : List String} {required : Record → List Field}
    {incomplete mismatch : String}
    (hreq : ∀ values fields n, t.values values = .ok (fields, n) →
      (required values).Perm (fields ++ [.sha256])) :
    (t.family.collect tags >>= fun values => verifySigned t.family (required values) t.encode
        incomplete mismatch values) = .ok r ↔
      t.family.collect tags = .ok r ∧ ∃ fields n, SelfSigned t r fields n := by
  simp only [bind_eq_ok]
  constructor
  · rintro ⟨values, hcol, hver⟩
    obtain ⟨rfl, hs⟩ := (verifySigned_eq_ok (hreq values)).mp hver
    exact ⟨hcol, hs⟩
  · rintro ⟨hcol, hs⟩
    exact ⟨r, hcol, (verifySigned_eq_ok (hreq r)).mpr ⟨rfl, hs⟩⟩

theorem decodeGenerationTags_eq_ok {tags : TagInput} :
    decodeGenerationTags tags = .ok r ↔
      generationFamily.collect tags.tags = .ok r ∧
        ∃ fields n, SelfSigned .generation r fields n := by
  refine collectVerify_eq_ok (t := .generation) fun values fields n hval => ?_
  obtain ⟨-, rfl, -⟩ := generationValues_eq_ok.mp hval
  rw [generationFields]
  split_ifs <;> decide

theorem decodeLazyObjectTags_eq_ok {tags : TagInput} :
    decodeLazyObjectTags tags = .ok r ↔
      lazyObjectFamily.collect tags.tags = .ok r ∧
        ∃ fields n, SelfSigned .lazyObject r fields n := by
  refine collectVerify_eq_ok (t := .lazyObject) fun values fields n hval => ?_
  obtain ⟨-, rfl, -⟩ := lazyObjectValues_eq_ok.mp hval
  exact .refl _

theorem decodeTransitionTags_eq_ok {tags : TagInput} :
    decodeTransitionTags tags = .ok r ↔
      transitionFamily.collect tags.tags = .ok r ∧
        ∃ fields n, SelfSigned .transition r fields n := by
  refine collectVerify_eq_ok (t := .transition) fun values fields n hval => ?_
  obtain ⟨-, rfl, -⟩ := transitionValues_eq_ok.mp hval
  exact .refl _

theorem keyCount_eq_zero : keyCount r = 0 ↔ r = fun _ => none := by
  simp only [keyCount, List.countP_eq_zero, Bool.not_eq_true, Option.isSome_eq_false_iff,
    Option.isNone_iff_eq_none]
  exact ⟨fun hall => funext fun f => hall f f.mem_all, fun hr f _ => by rw [hr]⟩

theorem decodeVgIntentTags_eq_ok {tags : TagInput} :
    decodeVgIntentTags tags = .ok (some r) ↔
      vgIntentFamily.collect tags.tags = .ok r ∧ ∃ fields n, SelfSigned .vgIntent r fields n := by
  have hreq : ∀ values fields n, TagFamily.vgIntent.values values = .ok (fields, n) →
      [Field.v, .tx, .state, .op, .object, .before, .sha256].Perm (fields ++ [.sha256]) := by
    intro values fields n hval
    obtain ⟨-, rfl, -⟩ := vgIntentValues_eq_ok.mp hval
    exact .refl _
  simp only [decodeVgIntentTags, bind_eq_ok]
  constructor
  · rintro ⟨values, hcol, hver⟩
    split_ifs at hver with hzero
    · simp at hver
    · simp only [bind_eq_ok, pure_eq_ok, Option.some.injEq] at hver
      obtain ⟨k, hver, rfl⟩ := hver
      obtain ⟨rfl, hs⟩ := (verifySigned_eq_ok (t := .vgIntent) (hreq values)).mp hver
      exact ⟨hcol, hs⟩
  · rintro ⟨hcol, fields, n, hs⟩
    refine ⟨r, hcol, ?_⟩
    have hzero : ¬ keyCount r = 0 := by
      rw [keyCount_eq_zero]
      rintro rfl
      exact absurd ((hs.complete .sha256).mpr (Or.inr rfl)) (by decide)
    rw [if_neg hzero]
    simp only [bind_eq_ok, pure_eq_ok, Option.some.injEq]
    exact ⟨r, (verifySigned_eq_ok (t := .vgIntent) (hreq r)).mpr ⟨rfl, fields, n, hs⟩, rfl⟩

/-- Every decoder accepts exactly the self-signed records. -/
theorem decode_eq_ok {tags : TagInput} :
    t.decode tags = .ok (some r) ↔
      t.family.collect tags.tags = .ok r ∧ ∃ fields n, SelfSigned t r fields n := by
  cases t with
  | anchor => exact map_some_eq_ok.trans decodeAnchorTags_eq_ok
  | generation => exact map_some_eq_ok.trans decodeGenerationTags_eq_ok
  | lazyObject => exact map_some_eq_ok.trans decodeLazyObjectTags_eq_ok
  | transition => exact map_some_eq_ok.trans decodeTransitionTags_eq_ok
  | vgIntent => exact decodeVgIntentTags_eq_ok

end
end SharedLvmThin.Thick
