import SharedLvmThin.ThickVolumeDeleteRuns
import SharedLvmThin.ThickSnapshotRecovery

/-! The recovery of an interrupted free. Whatever it answers, for whichever volume it was asked, it
leaves the group at one of the stages of the free; where it returns the free is complete. -/

namespace SharedLvmThin.ThickVolume
open Perl TagCodec Effects KeyedLists
open Thick (Record decodeAnchorTags vgIntentTags decodeVgIntentTags)

variable {env env' : Env} {volname other : String} {s t u : Session} {r : Removal}
variable {head anchor : Bool} {truth : Prop}

/-! ## The open intent -/

/-- The intent of a free as it is read back while it is open. -/
structure Removal.IntentAt (r : Removal) (X : Store) (intent : Record) : Prop where
  read : decodeVgIntentTags (.array (r.opened X).vgTags) = .ok (some intent)
  state : text intent .state = "OPEN"
  op : text intent .op = "REMOVE"
  object : text intent .object = r.anchor.name
  again : vgIntentTags intent = .ok r.written
  back : retag r.written [] (r.opened X).vgTags = X.vgTags
  closed : decodeVgIntentTags (.array X.vgTags) = .ok none

namespace Removal.Admitted
variable (h : r.Admitted env volname s)
include h

theorem read : AnchorRead env.storage volname s.store.lvs r.anchor r.info := by
  obtain ⟨⟨info, hread⟩, -⟩ := thickAnchor_eq_ok.mp h.anchor
  obtain rfl := Option.some.inj (hread.present.symm.trans h.info)
  exact hread

theorem intentAt {X : Store} (hX : X.vgTags = s.store.vgTags) :
    ∃ intent, r.IntentAt X intent := by
  obtain ⟨hback, intent, hread, hi⟩ := intent_written h.noIntent h.written
  have hopened : (r.opened X).vgTags = retag [] r.written s.store.vgTags := by
    rw [Removal.opened, hX]
  obtain ⟨space, -, hname⟩ := h.read.named
  have hobject : body r.anchor.name = r.anchor.name := Thick.body_of_plus (isLvName_anchor hname)
  refine ⟨intent, by rw [hopened]; exact hread, ?_, ?_, ?_, hi.again, ?_, ?_⟩
  · rw [hi.fields .state (by simp)]
    exact (by decide : body "OPEN" = "OPEN")
  · rw [hi.fields .op (by simp)]
    exact (by decide : body "REMOVE" = "REMOVE")
  · rw [hi.fields .object (by simp)]
    exact hobject
  · rw [hopened, hback, hX]
  · rw [hX]
    exact h.noIntent

theorem stage_closed {X : Store} (hX : r.Stage truth s.store X)
    (hread : decodeVgIntentTags (.array X.vgTags) = .ok none) :
    X = s.store ∨ X = r.final s.store := by
  cases hX with
  | before => exact Or.inl rfl
  | opened head anchor _ =>
    obtain ⟨i, hi⟩ := h.intentAt (X := s.store) rfl
    replace hread : decodeVgIntentTags (.array (r.opened s.store).vgTags) = .ok none := hread
    rw [hi.read] at hread
    cases hread
  | cleared => exact Or.inr rfl

/-- An intent is open exactly between its two commands. -/
theorem stage_open {X : Store} (hX : r.Stage truth s.store X) {intent : Record}
    (hread : decodeVgIntentTags (.array X.vgTags) = .ok (some intent)) :
    r.IntentAt s.store intent ∧ ∃ head anchor, X = r.opened (r.left head anchor s.store) := by
  cases hX with
  | before =>
    rw [h.noIntent] at hread
    cases hread
  | opened head anchor _ =>
    obtain ⟨i, hi⟩ := h.intentAt (X := s.store) rfl
    obtain rfl := Option.some.inj (Except.ok.inj (hi.read.symm.trans hread))
    exact ⟨hi, head, anchor, rfl⟩
  | cleared =>
    replace hread : decodeVgIntentTags (.array s.store.vgTags) = .ok (some intent) := hread
    rw [h.noIntent] at hread
    cases hread

end Removal.Admitted

/-! ## Names -/

/-- The name of an anchor tells the key. -/
theorem key_of_anchorName {space space' key key' name : String}
    (hname : anchorName space volname = .ok name) (hname' : anchorName space' other = .ok name)
    (hkey : objectKey space volname = .ok key) (hkey' : objectKey space' other = .ok key') :
    key = key' := by
  simp only [anchorName, hkey, hkey', bind_eq_ok, Except.ok.injEq, exists_eq_left', pure_eq_ok]
    at hname hname'
  have hsame := congrArg String.toList (hname.trans hname'.symm)
  simp only [String.toList_append, List.append_cancel_left_eq] at hsame
  exact String.toList_inj.mp hsame

theorem isRelated_head {key anchor name digits : String}
    (h : generationDigits? key name = some digits) : isRelated key anchor volname name = true := by
  obtain ⟨hname, -⟩ := generationDigits?_eq_some.mp h
  have hstrip : stripPrefix? ("sltg-g-" ++ key ++ "-") name = some digits :=
    stripPrefix?_eq_some.mpr hname
  simp [isRelated, hstrip]

theorem relatedTo_eq_nil {key anchor : String} {lvs : Inventory} :
    relatedTo key anchor volname lvs = [] ↔
      ∀ name, isRelated key anchor volname name = true → lvs.lookup name = none := by
  rw [relatedTo, sortBy_eq_nil, List.filter_eq_nil_iff]
  constructor
  · intro h name hrelated
    by_contra hsome
    have hmem : name ∈ lvs.keys := AList.mem_keys.mp
      (AList.lookup_isSome.mp (Option.isSome_iff_ne_none.mpr hsome))
    exact h name hmem hrelated
  · intro h name hmem hrelated
    have hsome := AList.lookup_isSome.mpr (AList.mem_keys.mpr hmem)
    simp [h name hrelated] at hsome

/-! ## Every recovery stays within the stages -/

theorem Removal.find_opened (S : Store) (lv : String) :
    (r.opened (r.left head anchor S)).find lv =
      if (anchor = false ∧ lv = r.anchor.name) ∨ (head = false ∧ lv = r.head) then none
      else S.find lv := r.find_left lv

section
variable (h : r.Admitted env volname s)
include h

theorem Removal.Admitted.find_open_anchor :
    (r.opened (r.left head anchor s.store)).find r.anchor.name =
      if anchor then some r.info else none := by
  rw [Removal.find_opened]
  cases anchor <;> simp [h.info, h.head_ne.symm]

theorem Removal.Admitted.find_open_head :
    (r.opened (r.left head anchor s.store)).find r.head =
      if head then some r.anchor.head else none := by
  rw [Removal.find_opened]
  cases head <;> simp [h.find_head, h.head_ne]

theorem Removal.Admitted.related_head {space key : String}
    (hspace : thickNamespace env.storage = .ok space)
    (hkey : objectKey space volname = .ok key) :
    ∃ digits, generationDigits? key r.head = some digits := by
  have honly := h.only
  simp only [checkOnlyHead, hspace, hkey, bind_eq_ok, Except.ok.injEq, exists_eq_left', dieIf_eq_ok,
    exists_const, decide_eq_false_iff_not, ne_eq, not_not] at honly
  have hmem : r.head ∈ generationsOf key s.store.lvs := by
    rw [honly.1]
    exact List.mem_singleton_self _
  simp only [generationsOf, KeyedLists.mem_sortBy, List.mem_filter] at hmem
  exact Option.isSome_iff_exists.mp hmem.2

variable (hs : env'.storage = env.storage)
include hs

/-- What the recovery takes for HEAD is the HEAD of the free. -/
theorem remainingHead_eq_ok {space key : String} {named : Option String}
    (hspace : thickNamespace env'.storage = .ok space) (hkey : objectKey space other = .ok key)
    (hname : anchorName space other = .ok r.anchor.name)
    (hok : remainingHead env'.storage other key r.anchor.name
      (r.opened (r.left head anchor s.store)).lvs = .ok named) :
    (anchor = true ∧ named = some r.head) ∨ (anchor = false ∧ head = false ∧ named = none) := by
  have hfind := @Removal.Admitted.find_open_anchor _ _ _ _ head anchor h
  have hfindHead := @Removal.Admitted.find_open_head _ _ _ _ head anchor h
  rw [Store.find] at hfind hfindHead
  rw [remainingHead, hfind] at hok
  obtain ⟨space', hspace', hname'⟩ := h.read.named
  rw [hs, hspace'] at hspace
  obtain rfl := Except.ok.inj hspace
  obtain ⟨key', hkey'⟩ : ∃ key', objectKey space' volname = .ok key' := by
    simp only [anchorName, bind_eq_ok] at hname'
    exact hname'.imp fun key h => h.1
  obtain rfl := key_of_anchorName hname hname' hkey hkey'
  obtain ⟨digits, hdigits⟩ := h.related_head hspace' hkey'
  cases anchor with
  | true =>
    simp only [if_true, bind_eq_ok, dieIf_eq_ok, exists_const, h.read.decoded, Except.ok.injEq,
      exists_eq_left'] at hok
    obtain ⟨-, -, hok⟩ := hok
    refine Or.inl ⟨rfl, ?_⟩
    split at hok
    · exact (pure_eq_ok.mp hok).symm
    · obtain ⟨_, -, hok⟩ := bind_eq_ok.mp hok
      exact (pure_eq_ok.mp hok).symm
  | false =>
    simp only [Bool.false_eq_true, if_false, bind_eq_ok, dieIf_eq_ok, exists_const, pure_eq_ok,
      decide_eq_false_iff_not, ne_eq, not_not, relatedTo_eq_nil] at hok
    refine Or.inr ⟨rfl, ?_, hok.2.symm⟩
    have hgone := hok.1 r.head (isRelated_head hdigits)
    rw [hfindHead] at hgone
    by_contra hhead
    simp [hhead] at hgone

-- The outcome of a long program is taken apart by its rules, never by running it.
attribute [local irreducible] Effects.Outcome

omit hs in
theorem outcome_removeRemaining (htruth : truth → env'.Truthful) {named : Option String}
    (hwithin : Within (r.Stage truth s.store) u t)
    (hstore : t.store = r.opened (r.left head anchor s.store))
    (hnamed : (anchor = true ∧ named = some r.head) ∨ (anchor = false ∧ head = false ∧ named = none))
    : Outcome (removeRemaining env' (r.opened (r.left head anchor s.store)).lvs named r.anchor.name)
      (fun _ v => Within (r.Stage truth s.store) u v ∧
        ∃ head anchor, v.store = r.opened (r.left head anchor s.store))
      (fun v => Within (r.Stage truth s.store) u v ∧
        ∃ head anchor, v.store = r.opened (r.left head anchor s.store)) t := by
  have hanchor := @Removal.Admitted.find_open_anchor _ _ _ _ head anchor h
  have hhead := @Removal.Admitted.find_open_head _ _ _ _ head anchor h
  rw [Store.find] at hanchor hhead
  unfold removeRemaining
  have hend {w : Session} {head' : Bool} (hw : Within (r.Stage truth s.store) u w)
      (hwstore : w.store = r.opened (r.left head' true s.store)) (hgone : truth → head' = false) :
      Outcome (runCommand env' (.remove r.anchor.name))
        (fun _ v => Within (r.Stage truth s.store) u v ∧
          ∃ head anchor, v.store = r.opened (r.left head anchor s.store))
        (fun v => Within (r.Stage truth s.store) u v ∧
          ∃ head anchor, v.store = r.opened (r.left head anchor s.store)) w := by
    refine outcome_runCommand fun v hv => ?_
    have hend := within_removeAnchor hw hwstore hgone hv
    exact ⟨hend, hend⟩
  rcases hnamed with ⟨rfl, rfl⟩ | ⟨rfl, rfl, rfl⟩
  · simp only [hanchor, hhead, if_true, Option.isSome_some]
    cases head with
    | false =>
      simp only [Bool.false_eq_true, if_false, Option.isSome_none, Effects.whenever, if_true]
      apply outcome_bind
      exact outcome_pure (hend hwithin hstore fun _ => rfl)
    | true =>
      simp only [if_true, Option.isSome_some, Effects.whenever]
      apply outcome_bind
      refine outcome_remove htruth fun w hw => ?_
      obtain ⟨head', hwstore⟩ : ∃ head', w.store = r.opened (r.left head' true s.store) := by
        rcases hw.store with hw' | hw'
        · exact ⟨false, by rw [hw', Command.store, hstore]; rfl⟩
        · exact ⟨true, hw'.trans hstore⟩
      have hw' : Within (r.Stage truth s.store) u w :=
        hwithin.ran hw (hwstore ▸ .opened _ _ fun _ _ => rfl)
      refine ⟨⟨hw', _, _, hwstore⟩, fun hdone => ?_⟩
      by_cases hyes : truth
      · have hwhead : w.store = r.opened (r.left false true s.store) := by
          rw [hdone hyes, Command.store, hstore]
          rfl
        exact hend hw' hwhead fun _ => rfl
      · exact hend hw' hwstore fun h => absurd h hyes
  · simp only [hanchor, Bool.false_eq_true, if_false, Option.isSome_none, Effects.whenever]
    exact outcome_pure ⟨hwithin, _, _, hstore⟩

theorem outcome_finishVolumeRecovery {space key : String}
    (hspace : thickNamespace env'.storage = .ok space) (hkey : objectKey space other = .ok key)
    (hname : anchorName space other = .ok r.anchor.name) {intent : Record}
    {result : Except String Unit} (hwithin : Within (r.Stage truth s.store) u t)
    (hstore : t.store = r.opened (r.left head anchor s.store)) :
    Outcome (finishVolumeRecovery env' other key r.anchor.name intent result)
      (fun _ v => Within (r.Stage truth s.store) u v ∧ v.store = r.final s.store)
      (Within (r.Stage truth s.store) u) t := by
  apply outcome_bind
  refine ((silent_ask env' _).orDie _).outcome hwithin fun _ _ => ?_
  apply outcome_bind
  refine (silent_listVolumes env').outcome hwithin fun after hafter => ?_
  obtain rfl := listVolumes_eq_ok hafter
  refine outcome_refuse (fun _ => hwithin) fun hgone => ?_
  replace hgone := relatedTo_eq_nil.mp (by simpa using hgone)
  obtain ⟨space', hspace', hname'⟩ := h.read.named
  rw [hs, hspace'] at hspace
  obtain rfl := Except.ok.inj hspace
  obtain ⟨key', hkey'⟩ : ∃ key', objectKey space' volname = .ok key' := by
    simp only [anchorName, bind_eq_ok] at hname'
    exact hname'.imp fun key h => h.1
  obtain rfl := key_of_anchorName hname hname' hkey hkey'
  obtain ⟨digits, hdigits⟩ := h.related_head hspace' hkey'
  obtain ⟨rfl, rfl⟩ : head = false ∧ anchor = false := by
    have hhead : t.store.find r.head = none := hgone r.head (isRelated_head hdigits)
    have hanchor : t.store.find r.anchor.name = none :=
      hgone r.anchor.name (by simp [isRelated])
    rw [hstore] at hhead hanchor
    exact h.gone hhead hanchor
  apply outcome_bind
  refine outcome_clearVgIntent hwithin fun current tags hcurrent htags v hv => ?_
  have hclear : (Command.changeVgTags tags []).store t.store = r.final s.store := by
    rw [hstore] at hcurrent ⊢
    exact h.cleared (S := r.final s.store) rfl hcurrent htags
  have hv' : Within (r.Stage truth s.store) u v := by
    refine hwithin.ran hv ?_
    rcases hv.store with h' | h'
    · rw [h', hclear]
      exact .cleared
    · rw [h']
      exact hwithin.1
  exact ⟨hv', fun hvstore => outcome_pure ⟨hv', hvstore.trans hclear⟩⟩

/-- From any stage, a recovery asked for any volume leads through stages only; it returns where the
free is complete. -/
theorem outcome_recoverVolumeDelete (htruth : truth → env'.Truthful)
    (hstage : r.Stage truth s.store u.store) :
    Outcome (recoverVolumeDelete env' other)
      (fun _ v => Within (r.Stage truth s.store) u v ∧ v.store = r.final s.store)
      (Within (r.Stage truth s.store) u) u := by
  have hstart : Within (r.Stage truth s.store) u u := Within.refl hstage
  apply outcome_bind
  refine (silent_lift _).outcome hstart fun _ _ => ?_
  apply outcome_bind
  refine (silent_ask env' _).outcome hstart fun _ _ => ?_
  apply outcome_bind
  refine (silent_lift _).outcome hstart fun space hspace => ?_
  replace hspace := (lift_eq_ok.mp hspace).2
  apply outcome_bind
  refine (silent_lift _).outcome hstart fun name hname => ?_
  replace hname := (lift_eq_ok.mp hname).2
  apply outcome_bind
  refine (silent_lift _).outcome hstart fun key hkey => ?_
  replace hkey := (lift_eq_ok.mp hkey).2
  apply outcome_bind
  refine (silent_lift _).outcome hstart fun mapper _ => ?_
  refine outcome_withVgLock hstart ?_
  apply outcome_bind
  refine (silent_readVgIntent env').outcome hstart fun intent hintent => ?_
  cases intent with
  | none => exact outcome_throwMessage hstart
  | some intent =>
    obtain ⟨hi, head, anchor, hstore⟩ := h.stage_open hstage (readVgIntent_eq_ok hintent)
    refine outcome_refuse (fun _ => hstart) fun hexact => ?_
    obtain rfl : name = r.anchor.name := by
      simp only [Bool.or_eq_false_iff, decide_eq_false_iff_not, not_not] at hexact
      rw [← hexact.2, hi.object]
    apply outcome_bind
    refine (silent_requireExactVgIntent env' _).outcome hstart fun _ _ => ?_
    apply outcome_bind
    refine (silent_ask env' _).outcome hstart fun _ _ => ?_
    apply outcome_bind
    refine (silent_verifyMapperAbsent env' _ _).outcome hstart fun _ _ => ?_
    apply outcome_bind
    refine (silent_listVolumes env').outcome hstart fun lvs hlvs => ?_
    obtain rfl := listVolumes_eq_ok hlvs
    apply outcome_bind
    refine (silent_lift _).outcome hstart fun named hnamed => ?_
    replace hnamed := (lift_eq_ok.mp hnamed).2
    rw [hstore] at hnamed
    replace hnamed := remainingHead_eq_ok h hs hspace hkey hname hnamed
    apply outcome_bind
    refine (Silent.each (fun lv => silent_verifyAutoactivationDisabled env' lv) _).outcome hstart
      fun _ _ => ?_
    have hrest {t : Session} (hwithin : Within (r.Stage truth s.store) u t)
        (ht : t.store = r.opened (r.left head anchor s.store)) :
        Outcome (attempt (removeRemaining env' u.store.lvs named r.anchor.name) >>=
          finishVolumeRecovery env' other key r.anchor.name intent)
          (fun _ v => Within (r.Stage truth s.store) u v ∧ v.store = r.final s.store)
          (Within (r.Stage truth s.store) u) t := by
      apply outcome_bind
      apply outcome_attempt
      rw [hstore]
      have hfinish {result : Except String Unit} {w : Session} (hw : Within (r.Stage truth s.store) u w ∧
          ∃ head anchor, w.store = r.opened (r.left head anchor s.store)) :
          Outcome (finishVolumeRecovery env' other key r.anchor.name intent result)
            (fun _ v => Within (r.Stage truth s.store) u v ∧ v.store = r.final s.store)
            (Within (r.Stage truth s.store) u) w := by
        obtain ⟨hw, _, _, hwstore⟩ := hw
        exact outcome_finishVolumeRecovery h hs hspace hkey hname hw hwstore
      exact (outcome_removeRemaining h htruth hwithin ht hnamed).weaken (fun _ w hw => hfinish hw)
        fun w hw message => hfinish hw
    apply outcome_bind
    refine outcome_of_idle ((issues_deactivateExactLvs fun _ => rfl).whenever _) fun t ht => ?_
    have ht' : t.store = r.opened (r.left head anchor s.store) := ht.1.trans hstore
    have hwithin : Within (r.Stage truth s.store) u t := by
      refine ht.weaken fun S hS => ?_
      rw [hS]
      exact hstage
    exact ⟨hwithin, fun _ => hrest hwithin ht'⟩

end

end SharedLvmThin.ThickVolume
