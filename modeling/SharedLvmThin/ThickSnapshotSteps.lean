import SharedLvmThin.ThickSnapshotDelete
import SharedLvmThin.ThickVolumeInventory

/-!
# One snapshot delete

The states a delete leads the volume group through, and that it leads it through no others:
the intent is set, the anchor is rebased, the snapshot is removed, the intent is cleared.
-/

namespace SharedLvmThin.ThickVolume
open Perl TagCodec Effects
open Thick (Field Record TagFamily TagInput hashOf anchorTags decodeAnchorTags
  decodeGenerationTags vgIntentTags decodeVgIntentTags materializedRebaseState numberOf)

variable {env : Env} {s t u : Session} {Q : Unit → Session → Prop} {E : Session → Prop}

/-! ## Parts that issue one command -/

theorem outcome_setVgIntent {intent : Record} (hE : E s)
    (h : ∀ written, decodeVgIntentTags (.array s.store.vgTags) = .ok none →
      vgIntentTags intent = .ok written → ∀ t, Ran (.changeVgTags [] written) s t →
        E t ∧ (t.store = (Command.changeVgTags [] written).store s.store → Q () t)) :
    Outcome (setVgIntent env intent) Q E s := by
  apply outcome_bind
  refine (silent_requireNoVgIntent env).outcome hE fun _ hnone => ?_
  replace hnone := requireNoVgIntent_eq_ok hnone
  apply outcome_bind
  refine (silent_vgStateDigest env).outcome hE fun observed _ => ?_
  apply outcome_bind
  refine (silent_refuse _ _).outcome hE fun _ _ => ?_
  apply outcome_bind
  refine (silent_lift _).outcome hE fun written hwritten => ?_
  replace hwritten := (lift_eq_ok.mp hwritten).2
  refine outcome_runProven ((silent_readVgIntent env).bind fun _ => silent_refuse _ _) ?_
    fun t ht => (h written hnone hwritten t ht).1
  intro t ht hverify
  refine (h written hnone hwritten t ht).2 ?_
  obtain ⟨after, s', hread, hrefuse⟩ := prog_bind_eq_ok.mp hverify
  have hafter := readVgIntent_eq_ok hread
  rcases ht.store with hstore | hstore
  . exact hstore
  . rw [hstore, hnone] at hafter
    obtain rfl := Except.ok.inj hafter
    have := (refuse_eq_ok.mp hrefuse).2
    simp at this

theorem outcome_clearVgIntent {expected : Record} (hE : E s)
    (h : ∀ current tags, decodeVgIntentTags (.array s.store.vgTags) = .ok (some current) →
      vgIntentTags current = .ok tags → ∀ t, Ran (.changeVgTags tags []) s t →
        E t ∧ (t.store = (Command.changeVgTags tags []).store s.store → Q () t)) :
    Outcome (clearVgIntent env expected) Q E s := by
  apply outcome_bind
  refine (silent_readVgIntent env).outcome hE fun current hcurrent => ?_
  replace hcurrent := readVgIntent_eq_ok hcurrent
  cases current with
  | none => exact outcome_throwMessage hE
  | some current =>
    apply outcome_bind
    refine (silent_refuse _ _).outcome hE fun _ _ => ?_
    apply outcome_bind
    refine (silent_lift _).outcome hE fun tags htags => ?_
    replace htags := (lift_eq_ok.mp htags).2
    refine outcome_runProven (silent_clearCheck env _) ?_
      fun t ht => (h current tags hcurrent htags t ht).1
    intro t ht hverify
    refine (h current tags hcurrent htags t ht).2 ?_
    obtain ⟨after, s', hread, hrefuse⟩ := prog_bind_eq_ok.mp hverify
    have hafter := readVgIntent_eq_ok hread
    rcases ht.store with hstore | hstore
    . exact hstore
    . rw [hstore, hcurrent] at hafter
      obtain rfl := Except.ok.inj hafter
      have := (refuse_eq_ok.mp hrefuse).2
      simp at this

theorem outcome_changeExactTags {lv message : String} {delete add : List String} (hE : E s)
    (h : ∀ info, s.store.find lv = some info → (info.tags.map trim).Nodup →
      sameTags (info.tags.map trim) delete = true →
      ∀ t, Ran (.changeTags lv (delete.filter (· ∉ add)) (add.filter (· ∉ delete))) s t → E t ∧
        (∀ after, t.store.find lv = some after → sameTags (after.tags.map trim) add = true →
          Q () t)) : Outcome (changeExactTags env lv delete add message) Q E s := by
  apply outcome_bind
  refine (silent_readExactTags env lv).outcome hE fun before hbefore => ?_
  obtain ⟨info, hinfo, rfl, hnodup⟩ := readExactTags_eq_ok hbefore
  apply outcome_bind
  refine (silent_refuse _ _).outcome hE fun _ hsame => ?_
  replace hsame : sameTags (info.tags.map trim) delete = true := by
    simpa using (refuse_eq_ok.mp hsame).2
  refine outcome_runProven ((silent_readExactTags env lv).bind fun _ => silent_refuse _ _) ?_
    fun t ht => (h info hinfo hnodup hsame t ht).1
  intro t ht hverify
  obtain ⟨after, s', hread, hrefuse⟩ := prog_bind_eq_ok.mp hverify
  obtain ⟨info', hinfo', rfl, -⟩ := readExactTags_eq_ok hread
  exact (h info hinfo hnodup hsame t ht).2 info' hinfo' (by simpa using (refuse_eq_ok.mp hrefuse).2)

theorem outcome_deactivateExactLvs {message : String} {lvs : List String} (hE : E s)
    (h : ∀ t, Ran (.deactivate lvs) s t → Q () t ∧ E t) :
    Outcome (deactivateExactLvs env message lvs) Q E s := by
  apply outcome_bind
  refine (silent_refuse _ _).outcome hE fun _ _ => ?_
  apply outcome_bind
  refine (silent_refuse _ _).outcome hE fun _ _ => ?_
  apply outcome_bind
  refine (silent_kernelInventory env).outcome hE fun before _ => ?_
  apply outcome_bind
  refine (Silent.each (fun lv => silent_verifyMapped env before lv) lvs).outcome hE fun _ _ => ?_
  refine outcome_runProven ?_ (fun t ht _ => (h t ht).1) fun t ht => (h t ht).2
  refine (silent_kernelInventory env).bind fun after => ?_
  exact Silent.each (fun lv => silent_refuse _ _) _

/-! ## The states of a run -/

/-- Every state from `s` to `t` is among those of `X`. -/
def Within (X : Store → Prop) (s t : Session) : Prop :=
  X t.store ∧ ∃ new, t.issued = s.issued ++ new ∧ ∀ i ∈ new, X i.store

variable {X : Store → Prop} {command : Command}

theorem Within.refl (h : X s.store) : Within X s s := ⟨h, [], by simp, by simp⟩

theorem Within.ran (h : Within X s t) (hran : Ran command t u) (hX : X u.store) :
    Within X s u := by
  obtain ⟨-, new, hnew, hall⟩ := h
  refine ⟨hX, new ++ [⟨command, u.store⟩], ?_, ?_⟩
  . rw [hran.issued, hnew, List.append_assoc]
  . intro i hi
    rcases List.mem_append.mp hi with hi | hi
    . exact hall i hi
    . rw [List.mem_singleton.mp hi]
      exact hX

theorem Within.trans {r : Session} (h : Within X s t) (h' : Within X t r) : Within X s r := by
  obtain ⟨-, new, hnew, hall⟩ := h
  obtain ⟨hX, new', hnew', hall'⟩ := h'
  refine ⟨hX, new ++ new', by rw [hnew', hnew, List.append_assoc], fun i hi => ?_⟩
  exact (List.mem_append.mp hi).elim (hall i) (hall' i)

theorem Within.weaken {Y : Store → Prop} (h : Within X s t) (hXY : ∀ S, X S → Y S) :
    Within Y s t := by
  obtain ⟨hX, new, hnew, hall⟩ := h
  exact ⟨hXY _ hX, new, hnew, fun i hi => hXY _ (hall i hi)⟩

end SharedLvmThin.ThickVolume
