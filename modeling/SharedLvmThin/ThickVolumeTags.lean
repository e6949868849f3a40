import SharedLvmThin.ThickTagRoundTrip
import SharedLvmThin.ThickVolume

/-!
# Tags on volumes and on the volume group

What an intent leaves on the volume group can be read back and taken away again, and an
anchor that carries exactly its written tags carries exactly the new ones after a change.
-/

namespace SharedLvmThin.ThickVolume
open Perl TagCodec Effects
open Thick (Field Record TagFamily TagInput hashOf anchorTags decodeAnchorTags vgIntentTags
  decodeVgIntentTags materializedRebaseState numberOf)

/-! ## Lists of tags -/

section
variable {delete add tags left right : List String}

theorem mem_retag {t : String} :
    t ∈ retag delete add tags ↔ (t ∈ tags ∧ t ∉ delete) ∨ t ∈ add := by
  simp only [retag, List.mem_append, List.mem_filter, decide_eq_true_eq]
  tauto

theorem retag_nodup (htags : tags.Nodup) (hadd : add.Nodup) : (retag delete add tags).Nodup := by
  refine List.nodup_append'.mpr ⟨htags.filter _, hadd.filter _, ?_⟩
  intro t hkept hnew
  have hout : t ∉ tags.filter (· ∉ delete) := of_decide_eq_true (List.mem_filter.mp hnew).2
  exact hout hkept

/-- Removing what goes and adding what comes turns one written set into the other. -/
theorem retag_perm (hdelete : delete.Nodup) (hadd : add.Nodup) (h : tags.Perm delete) :
    (retag (delete.filter (· ∉ add)) (add.filter (· ∉ delete)) tags).Perm add := by
  have htags : tags.Nodup := h.nodup_iff.mpr hdelete
  refine (List.perm_ext_iff_of_nodup (retag_nodup htags (hadd.filter _)) hadd).mpr fun t => ?_
  have hmem : t ∈ tags ↔ t ∈ delete := h.mem_iff
  simp only [mem_retag, hmem, List.mem_filter, decide_eq_true_eq]
  tauto

theorem sameTags_iff (hright : right.Nodup) :
    sameTags left right = true ↔ left.Perm right := by
  simp only [sameTags, Bool.and_eq_true, decide_eq_true_eq, List.all_eq_true]
  constructor
  · intro h
    have hsub : right.Subperm left := List.subperm_of_subset hright h.2
    exact (hsub.perm_of_length_le h.1.le).symm
  · intro h
    exact ⟨h.length_eq, fun t ht => h.mem_iff.mpr ht⟩

theorem retag_add (h : ∀ t ∈ add, t ∉ tags) : retag [] add tags = tags ++ add := by
  have hkept : tags.filter (· ∉ ([] : List String)) = tags := by simp
  simp only [retag, hkept]
  rw [List.filter_eq_self.mpr fun t ht => by simpa using h t ht]

theorem retag_delete (h : ∀ t ∈ delete, t ∉ tags) : retag delete [] (tags ++ delete) = tags := by
  have hkept : tags.filter (· ∉ delete) = tags :=
    List.filter_eq_self.mpr fun t ht => by
      simpa using fun hd => h t hd ht
  have hgone : delete.filter (· ∉ delete) = [] := by simp
  rw [retag, List.filter_append, hkept, hgone]
  simp

end

/-! ## Written tags -/

section
variable {t : TagFamily} {h r : Record} {written : List String}

theorem written_nodup (hok : t.encode h = .ok written) : written.Nodup := by
  obtain ⟨fields, n, digest, hval, -, rfl⟩ := Thick.encode_eq_ok.mp hok
  have hsf := Thick.signedFields_of_values hval
  have hpairs : fields.map (fun f => t.family.tag f (text n f)) ++ [t.family.tag .sha256 digest] =
      (fields.map (fun f => (f, text n f)) ++ [(Field.sha256, digest)]).map
        fun p => t.family.tag p.1 p.2 := by
    simp
  rw [hpairs]
  refine List.Nodup.map ?_ ?_
  · intro p q hpq
    exact Prod.ext (tag_injective t.family hpq).1 (tag_injective t.family hpq).2
  · refine List.Nodup.of_map Prod.fst ?_
    simp only [List.map_append, List.map_map, List.map_cons, List.map_nil, Function.comp_def,
      List.map_id']
    rw [List.nodup_append_comm]
    exact List.nodup_cons.mpr ⟨hsf.unsigned, hsf.nodup⟩

theorem trim_written (hown : t.family.own written = written) : written.map trim = written := by
  rw [Family.own] at hown
  have hlen : ((written.map trim).filter t.family.leads).length = (written.map trim).length := by
    rw [hown, List.length_map]
  rwa [List.filter_eq_self.mpr (List.length_filter_eq_length_iff.mp hlen)] at hown

/-! ## The intent of the volume group -/

theorem own_of_no_intent {tags : List String}
    (h : decodeVgIntentTags (.array tags) = .ok none) : Thick.vgIntentFamily.own tags = [] := by
  simp only [decodeVgIntentTags, TagInput.tags, bind_eq_ok] at h
  obtain ⟨values, hcollect, h⟩ := h
  split_ifs at h with hzero
  · have hnone := Thick.keyCount_eq_zero.mp hzero
    apply List.eq_nil_iff_forall_not_mem.mpr
    intro s hs
    obtain ⟨f, v, -, hv⟩ := ((collect_sound Thick.vgIntentFamily hcollect).2 s).mp hs
    simp [hnone] at hv
  · simp only [bind_eq_ok, pure_eq_ok, reduceCtorEq, and_false, exists_const] at h

/-- What the intent's checks compare, as the decoder returns it. -/
structure IntentRead (intent r : Record) (written : List String) : Prop where
  fields : ∀ f ∈ [Field.tx, .state, .op, .object, .before], text r f = body (text intent f)
  again : vgIntentTags r = .ok written

/-- An intent written beside tags that hold none is read back, and is gone once its tags are. -/
theorem intent_written {intent : Record} {tags : List String}
    (hnone : decodeVgIntentTags (.array tags) = .ok none)
    (hok : vgIntentTags intent = .ok written) :
    retag written [] (retag [] written tags) = tags ∧
      ∃ r, decodeVgIntentTags (.array (retag [] written tags)) = .ok (some r) ∧
        IntentRead intent r written := by
  have hok' : TagFamily.vgIntent.encode intent = .ok written := hok
  have hempty := own_of_no_intent hnone
  have hread : Thick.Readable .vgIntent intent := by
    refine ⟨fun f _ ht => by simp [TagFamily.treatment] at ht, fun hb => ?_⟩
    exact absurd (show Field.bytes ∈ Thick.vgIntentFields from hb) (by decide)
  have hown : TagFamily.vgIntent.family.own written = written := Thick.own_written hok' hread
  have hfresh : ∀ s ∈ written, s ∉ tags := by
    intro s hs hmem
    have hs' : s ∈ TagFamily.vgIntent.family.own written := hown.symm ▸ hs
    obtain ⟨u, hu, rfl⟩ := List.mem_map.mp (List.mem_filter.mp hs').1
    have hleads := (List.mem_filter.mp hs').2
    have htrim : trim u = u :=
      List.map_inj_left.mp ((trim_written hown).trans (List.map_id _).symm) u hu
    have hin : trim u ∈ Thick.vgIntentFamily.own tags := by
      refine List.mem_filter.mpr ⟨List.mem_map.mpr ⟨u, ?_, rfl⟩, hleads⟩
      rwa [htrim] at hmem
    simp [hempty] at hin
  have hadd := retag_add hfresh
  refine ⟨by rw [hadd, retag_delete hfresh], ?_⟩
  have hperm : (TagFamily.vgIntent.family.own
      (TagInput.array (retag [] written tags)).tags).Perm written := by
    change (Thick.vgIntentFamily.own (retag [] written tags)).Perm written
    rw [hadd, own_append, hempty, List.nil_append, show Thick.vgIntentFamily.own written = written
      from hown]
  obtain ⟨fields, n, digest, hval, -, hdec, hagain⟩ := Thick.decode_written hok' hread hperm
  obtain ⟨-, rfl, rfl⟩ := Thick.vgIntentValues_eq_ok.mp hval
  refine ⟨_, hdec, fun f hf => ?_, hagain⟩
  simp only [List.mem_cons, List.not_mem_nil, or_false] at hf
  rcases hf with rfl | rfl | rfl | rfl | rfl <;> rfl

end

/-! ## Anchors -/

/-- The anchor carries the tags that are written for its state and no others. -/
def ExactTags (info : Lv) (state : Record) : Prop :=
  ∃ written, anchorTags state = .ok written ∧ info.tags.Perm written

/-- Written anchor tags name one transaction. -/
theorem tx_written {state : Record} {written : List String} (hok : anchorTags state = .ok written)
    (v : String) : Thick.anchorFamily.tag .tx v ∈ written ↔ v = text state .tx := by
  change TagFamily.anchor.encode state = .ok written at hok
  obtain ⟨fields, n, digest, hval, -, rfl⟩ := Thick.encode_eq_ok.mp hok
  have htx : Field.tx ∈ fields := by
    rw [Thick.fieldsOf_values hval, TagFamily.fieldsOf]
    split_ifs <;> decide
  have hn : text n .tx = text state .tx := by
    rw [Thick.text_normal hval htx]
    rfl
  change TagFamily.anchor.family.tag .tx v ∈ _ ↔ _
  rw [List.mem_append, List.mem_map, List.mem_singleton]
  constructor
  . intro h
    rcases h with ⟨f, -, hf⟩ | hsha
    . obtain ⟨rfl, hv⟩ := tag_injective _ hf
      exact hv.symm.trans hn
    . cases (tag_injective _ hsha).1
  . intro h
    exact Or.inl ⟨.tx, htx, by rw [hn, h]⟩

section
variable {state after : Record} {info : Lv} {tx : String} {delete add : List String}

theorem decoded_no_newline {input : TagInput} (h : decodeAnchorTags input = .ok state) (f : Field) :
    ¬ EndsInNewline (text state f) := by
  cases hf : state f with
  | none =>
    rw [text, hf]
    decide
  | some v =>
    obtain ⟨hcollect, -⟩ := Thick.decodeAnchorTags_eq_ok.mp h
    rw [text, hf]
    exact value_plus_not_newline Thick.anchorFamily
      ((collect_sound Thick.anchorFamily hcollect).1 f v hf).2

theorem readable_eager (hv : Thick.versionOf state = "5")
    (h : ∀ f ∈ Thick.anchorFieldsV5, ¬ EndsInNewline (text state f)) :
    Thick.Readable .anchor state := by
  have hfields : TagFamily.anchor.fieldsOf state = Thick.anchorFieldsV5 := by
    rw [TagFamily.fieldsOf, hv, if_neg (by decide)]
  rw [Thick.Readable, hfields]
  refine ⟨fun f hf _ => ?_, fun hb => absurd hb (by decide)⟩
  rw [TagFamily.given]
  split_ifs with hversion
  · change ¬ EndsInNewline (Thick.versionOf state)
    rw [hv]
    decide
  · exact h f hf

/-- An exact anchor spells every field as it would be written. -/
theorem ExactTags.spelled {n : Record} {fields : List Field} (h : ExactTags info state)
    (hstate : decodeAnchorTags (.array info.tags) = .ok state) (hv : Thick.versionOf state = "5")
    (hval : TagFamily.anchor.values state = .ok (fields, n)) :
    ∀ f ∈ fields, state f = some (text n f) := by
  obtain ⟨written, hwritten, hperm⟩ := h
  obtain ⟨hcollect, fields', n', hs⟩ := Thick.decodeAnchorTags_eq_ok.mp hstate
  obtain ⟨rfl, rfl⟩ := Prod.mk.inj (Except.ok.inj (hval.symm.trans hs.values))
  have hread := readable_eager hv fun f _ => decoded_no_newline hstate f
  have hown : TagFamily.anchor.family.own written = written := Thick.own_written hwritten hread
  have hrewrites : Thick.Rewrites .anchor (.array info.tags) state := by
    refine ⟨written, hwritten, fun t => ?_⟩
    exact ((own_perm TagFamily.anchor.family hperm).mem_iff.trans (by rw [hown])).symm
  exact (Thick.rewrites_iff (t := .anchor) hcollect hs).mp hrewrites

theorem rebased_of_ne {f : Field} (h : f ∉ [Field.tx, .op, .snapshot, .source, .old, .new]) :
    Thick.rebased state tx f = state f := by
  simp only [List.mem_cons, List.not_mem_nil, or_false, not_or] at h
  simp [Thick.rebased, h]

theorem text_rebased {f : Field} (h : f ∈ [Field.source, .old, .new]) :
    text (Thick.rebased state tx) f = text state .head := by
  simp only [List.mem_cons, List.not_mem_nil, or_false] at h
  rcases h with rfl | rfl | rfl <;> rfl

theorem normal_rebased {f : Field} (h : f ∈ [Field.tx, .op, .snapshot, .source, .old, .new]) :
    some ((TagFamily.anchor.treatment f).apply (TagFamily.anchor.given (Thick.rebased state tx) f)) =
      Thick.rebased state tx f := by
  have hne : f ≠ .v := by
    rintro rfl
    revert h
    decide
  rw [TagFamily.given, if_neg hne]
  simp only [List.mem_cons, List.not_mem_nil, or_false] at h
  rcases h with rfl | rfl | h
  · simp [TagFamily.treatment, Thick.Treatment.apply, Thick.rebased]
  · have hop : uc (body "ALLOC") = "ALLOC" := by decide
    simp [TagFamily.treatment, Thick.Treatment.apply, Thick.rebased, hop]
  · rcases h with rfl | rfl | rfl | rfl <;>
      simp [TagFamily.treatment, Thick.Treatment.apply, Thick.rebased]

theorem versionOf_rebased (hv : Thick.versionOf state = "5") :
    Thick.versionOf (Thick.rebased state tx) = "5" := by
  rw [Thick.versionOf, rebased_of_ne (by decide)]
  exact hv

theorem readable_rebased {input : TagInput} (hstate : decodeAnchorTags input = .ok state)
    (hv : Thick.versionOf state = "5") (htx : ¬ EndsInNewline tx) :
    Thick.Readable .anchor (Thick.rebased state tx) := by
  refine readable_eager (versionOf_rebased hv) fun f hf => ?_
  by_cases hout : f ∈ [Field.tx, .op, .snapshot, .source, .old, .new]
  · simp only [List.mem_cons, List.not_mem_nil, or_false] at hout
    rcases hout with rfl | rfl | rfl | hout
    · exact htx
    · exact (by decide : ¬ EndsInNewline "ALLOC")
    · exact (by decide : ¬ EndsInNewline "none")
    · rw [text_rebased (by simpa using hout)]
      exact decoded_no_newline hstate .head
  · rw [text, rebased_of_ne hout]
    exact decoded_no_newline hstate f

/-- A materialized anchor can take any well-formed transaction. -/
theorem accepted_rebased (h : Thick.Accepted state)
    (hv : Thick.versionOf state = "5") (hphase : text state .phase = "MATERIALIZED")
    (htx : Thick.isTx (some tx) = true) : Thick.Accepted (Thick.rebased state tx) := by
  obtain ⟨phase, op, ha⟩ := (Thick.accepted_iff_eager hv).mp h
  have hkept {f : Field} (hf : f ∉ [Field.tx, .op, .snapshot, .source, .old, .new]) :
      text (Thick.rebased state tx) f = text state f := by
    rw [text, rebased_of_ne hf, text]
  have hmoved {f : Field} (hf : f ∈ [Field.source, .old, .new]) :
      text (Thick.rebased state tx) f = text (Thick.rebased state tx) .head := by
    rw [text_rebased hf, hkept (by decide)]
  have hphaseRead : phase = .materialized := by
    have hread := ha.phaseRead
    rw [Thick.phaseOfV5, hphase] at hread
    exact (Option.some.inj hread).symm
  refine (Thick.accepted_iff_eager (versionOf_rebased hv)).mpr ⟨phase, .alloc, ?_⟩
  exact {
    tokens := fun f hf => by
      by_cases hs : f = .snapshot
      . rw [hs]
        exact (by decide : Thick.isToken "none" = true)
      . by_cases hm : f ∈ [Field.source, .old, .new]
        . rw [text_rebased hm]
          exact ha.tokens .head (by decide)
        . rw [hkept (by revert hf hs hm; cases f <;> decide)]
          exact ha.tokens f hf
    opToken := (by decide : Thick.isToken "ALLOC" = true)
    opRead := (by decide : Thick.Operation.ofText? (uc (body "ALLOC")) = some .alloc)
    phaseToken := by rw [hkept (by decide)]; exact ha.phaseToken
    phaseRead := by rw [Thick.phaseOfV5, hkept (by decide)]; exact ha.phaseRead
    tx := htx
    generation := by rw [rebased_of_ne (by decide)]; exact ha.generation
    region := by rw [rebased_of_ne (by decide)]; exact ha.region
    headOk := by
      rw [Thick.HeadOk, hphaseRead, if_neg (by decide)]
      exact ⟨(hmoved (by decide)).symm, fun h => absurd rfl h⟩
    operationOk := by
      rw [Thick.OperationOk, if_pos rfl, hmoved (f := .source) (by decide),
        hmoved (f := .old) (by decide), hmoved (f := .new) (by decide)]
      exact ⟨rfl, rfl, rfl, rfl⟩ }

/-- After the rebase the anchor decodes to the rebased state. -/
theorem decode_rebased (hexact : ExactTags info state)
    (hstate : decodeAnchorTags (.array info.tags) = .ok state)
    (hrebase : materializedRebaseState state (some tx) = .ok after) (htx : ¬ EndsInNewline tx)
    (hdelete : anchorTags state = .ok delete) (hadd : anchorTags after = .ok add) :
    (retag (delete.filter (· ∉ add)) (add.filter (· ∉ delete)) info.tags).Perm add ∧
      ∃ r, decodeAnchorTags (.array
        (retag (delete.filter (· ∉ add)) (add.filter (· ∉ delete)) info.tags)) = .ok r ∧
          ∀ f, f ≠ .sha256 → r f = after f := by
  obtain ⟨-, hv, -, -, -, -, rfl⟩ := Thick.materializedRebaseState_eq_ok.mp hrebase
  change TagFamily.anchor.encode state = .ok delete at hdelete
  change TagFamily.anchor.encode (Thick.rebased state tx) = .ok add at hadd
  have hperm : info.tags.Perm delete := by
    obtain ⟨written, hwritten, hperm⟩ := hexact
    obtain rfl := Except.ok.inj (hwritten.symm.trans hdelete)
    exact hperm
  have hnew := retag_perm (written_nodup hdelete) (written_nodup hadd) hperm
  have hv' := @versionOf_rebased state tx hv
  have hread := readable_rebased hstate hv htx
  refine ⟨hnew, ?_⟩
  have hown : (TagFamily.anchor.family.own (TagInput.array (retag (delete.filter (· ∉ add))
      (add.filter (· ∉ delete)) info.tags)).tags).Perm add := by
    have := own_perm TagFamily.anchor.family hnew
    rwa [Thick.own_written hadd hread] at this
  obtain ⟨fields, n, digest, hval, -, hdec, -⟩ := Thick.decode_written hadd hread hown
  refine ⟨_, Thick.map_some_eq_ok.mp hdec, fun f hf => ?_⟩
  obtain ⟨-, fields', n', hs⟩ := Thick.decodeAnchorTags_eq_ok.mp hstate
  have hspelled := hexact.spelled hstate hv hs.values
  have hfields : fields' = fields := by
    rw [Thick.fieldsOf_values hs.values, Thick.fieldsOf_values hval, TagFamily.fieldsOf,
      TagFamily.fieldsOf, hv, hv']
  subst hfields
  have hfive : fields' = Thick.anchorFieldsV5 := by
    rw [Thick.fieldsOf_values hval, TagFamily.fieldsOf, hv', if_neg (by decide)]
  have hnormal (g : Field) (hg : g ∈ fields') := Thick.text_normal hval hg
  have hbefore (g : Field) (hg : g ∈ fields') := Thick.text_normal hs.values hg
  by_cases hin : f ∈ fields'
  · rw [Thick.signedRecord, if_pos hin, hnormal f hin]
    by_cases hout : f ∈ [Field.tx, .op, .snapshot, .source, .old, .new]
    · exact normal_rebased hout
    · rw [rebased_of_ne hout, hspelled f hin, hbefore f hin]
      have hgiven : TagFamily.anchor.given (Thick.rebased state tx) f =
          TagFamily.anchor.given state f := by
        simp only [TagFamily.given, text, rebased_of_ne hout,
          show Thick.rebased state tx .v = state .v from rebased_of_ne (by decide)]
      rw [hgiven]
  · rw [Thick.signedRecord, if_neg hin, if_neg hf]
    have hout : f ∉ [Field.tx, .op, .snapshot, .source, .old, .new] := by
      intro hmem
      rw [hfive] at hin
      revert hin hmem
      cases f <;> decide
    rw [rebased_of_ne hout]
    have hnone : ¬ (state f).isSome := fun hsome =>
      ((hs.complete f).mp hsome).elim hin hf
    simpa using (Option.not_isSome_iff_eq_none.mp hnone).symm

end

end SharedLvmThin.ThickVolume
