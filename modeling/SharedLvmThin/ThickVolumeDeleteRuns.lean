import SharedLvmThin.ThickSnapshotRuns
import SharedLvmThin.ThickVolumeCommands
import SharedLvmThin.ThickVolumeDelete

/-! What a free has decided before its intent, the volume groups it can leave behind, and the one
it leaves when it returns. HEAD and anchor are gone or not; nothing else ever changes. -/

namespace SharedLvmThin.ThickVolume
open Perl TagCodec Effects
open Thick (Record decodeAnchorTags vgIntentTags decodeVgIntentTags)

theorem lookup_erase (lvs : Inventory) (name lv : String) :
    (lvs.erase name).lookup lv = if lv = name then none else lvs.lookup lv := by
  split_ifs with heq
  · rw [heq, AList.lookup_erase]
  · exact AList.lookup_erase_ne heq

/-! ## Decisions and stages -/

/-- What a free has decided before its intent. -/
structure Removal where
  anchor : Anchor
  info : Lv
  tx : String
  before : String
  written : List String

namespace Removal
variable (r : Removal)

def head : String := text r.anchor.state .head

def intent : Record := intentOf r.tx "REMOVE" r.anchor.name r.before

def opened (S : Store) : Store := { S with vgTags := retag [] r.written S.vgTags }

/-- The volume group with or without HEAD and with or without the anchor. -/
def left (head anchor : Bool) (S : Store) : Store :=
  let lvs := if head then S.lvs else S.lvs.erase r.head
  { S with lvs := if anchor then lvs else lvs.erase r.anchor.name }

/-- The volume group after the uninterrupted free. -/
def final (S : Store) : Store := r.left false false S

structure Admitted (env : Env) (volname : String) (s : Session) : Prop where
  config : requireThickIdentityConfig env.storage = .ok ()
  noIntent : decodeVgIntentTags (.array s.store.vgTags) = .ok none
  anchor : thickAnchor env.storage volname s.store.lvs = .ok r.anchor
  info : s.store.find r.anchor.name = some r.info
  only : checkOnlyHead env.storage volname s.store.lvs r.anchor = .ok ()
  headDisabled : r.anchor.head.disabled
  anchorDisabled : r.info.disabled
  hex : exactly 32 isLowerHex r.tx = true
  written : vgIntentTags r.intent = .ok r.written

/-- The volume groups between the first command of a free and the last of its recovery. Where LVM
tells the truth, HEAD does not outlive the anchor. -/
inductive Stage (truth : Prop) (S : Store) : Store → Prop
  | before : Stage truth S S
  | opened (head anchor : Bool) : (truth → head = true → anchor = true) →
      Stage truth S (r.opened (r.left head anchor S))
  | cleared : Stage truth S (r.final S)

variable {r : Removal} {S X : Store} {head anchor : Bool} {truth : Prop}

@[simp] theorem left_vgTags : (r.left head anchor S).vgTags = S.vgTags := rfl

@[simp] theorem left_uuid : (r.left head anchor S).uuid = S.uuid := rfl

theorem left_full : r.left true true S = S := rfl

theorem find_left (lv : String) : (r.left head anchor S).find lv =
    if (anchor = false ∧ lv = r.anchor.name) ∨ (head = false ∧ lv = r.head) then none
    else S.find lv := by
  cases head <;> cases anchor <;> simp [left, Store.find, lookup_erase, ite_or]

/-- At every stage every other logical volume is as it was. -/
theorem Stage.find (h : r.Stage truth S X) {lv : String} (hhead : lv ≠ r.head)
    (hanchor : lv ≠ r.anchor.name) : X.find lv = S.find lv := by
  cases h with
  | before => rfl
  | opened head anchor _ =>
    refine (r.find_left (S := S) lv).trans (if_neg ?_)
    simp [hhead, hanchor]
  | cleared =>
    refine (r.find_left (S := S) lv).trans (if_neg ?_)
    simp [hhead, hanchor]

theorem Stage.weaken {truth' : Prop} (h : r.Stage truth S X) (htruth : truth' → truth) :
    r.Stage truth' S X := by
  cases h with
  | before => exact .before
  | opened head anchor hgone => exact .opened head anchor fun hyes => hgone (htruth hyes)
  | cleared => exact .cleared

end Removal

/-! ## The run -/

section
variable {env : Env} {volname : String} {s t : Session} {r : Removal} {truth : Prop}

-- The outcome of a long program is taken apart by its rules, never by running it.
attribute [local irreducible] Effects.Outcome

/-- A part that only issues commands which leave the volume group alone. -/
theorem outcome_of_idle {α : Type} {m : Op α} {Q : α → Session → Prop} {E : Session → Prop}
    (hm : Issues (fun command => ∀ S, command.store S = S) m)
    (h : ∀ t, Within (fun S => S = s.store) s t → E t ∧ ∀ a, Q a t) : Outcome m Q E s := by
  have hall := (hm s).within id fun command S hkeep => hkeep S
  have ht := h (m s).1 hall
  unfold Outcome
  split
  · rename_i u a hrun
    rw [hrun] at ht
    exact ht.2 a
  · rename_i u message hrun
    rw [hrun] at ht
    exact ht.1

/-- What LVM reports done it has done. -/
def Env.Truthful (env : Env) : Prop :=
  ∀ n, (env.outcome n).reported = .ok () → (env.outcome n).applied = true

theorem outcome_remove {lv : String} {Q : Unit → Session → Prop} {E : Session → Prop}
    (htruth : truth → env.Truthful)
    (h : ∀ t, Ran (.remove lv) s t → E t ∧
      ((truth → t.store = (Command.remove lv).store s.store) → Q () t)) :
    Outcome (runCommand env (.remove lv)) Q E s := by
  have ht := h _ (ran_runCommand env (.remove lv) s)
  unfold Outcome
  split
  · rename_i t u hrun
    rw [hrun] at ht
    refine ht.2 fun hyes => ?_
    have happlied := htruth hyes s.issued.length (congrArg Prod.snd hrun)
    rw [runCommand, happlied] at hrun
    exact (congrArg (fun r => r.1.store) hrun).symm
  · rename_i t message hrun
    rw [hrun] at ht
    exact ht.1

/-- The anchor is removed after HEAD. -/
theorem within_removeAnchor {S : Store} {u v w : Session} {head : Bool}
    (hwithin : Within (r.Stage truth S) u v) (hstore : v.store = r.opened (r.left head true S))
    (hgone : truth → head = false) (hran : Ran (.remove r.anchor.name) v w) :
    Within (r.Stage truth S) u w ∧ ∃ head anchor, w.store = r.opened (r.left head anchor S) := by
  obtain ⟨anchor, hwstore⟩ : ∃ anchor, w.store = r.opened (r.left head anchor S) := by
    rcases hran.store with hw | hw
    · exact ⟨false, by rw [hw, Command.store, hstore]; rfl⟩
    · exact ⟨true, hw.trans hstore⟩
  refine ⟨hwithin.ran hran ?_, head, anchor, hwstore⟩
  rw [hwstore]
  refine .opened _ _ fun hyes hhead => ?_
  rw [hgone hyes] at hhead
  cases hhead

theorem outcome_removeObjects (htruth : truth → env.Truthful)
    (hwithin : Within (r.Stage truth s.store) s t) (hstore : t.store = r.opened s.store) :
    Outcome (removeObjects env r.head r.anchor.name)
      (fun _ u => Within (r.Stage truth s.store) s u ∧
        ∃ head anchor, u.store = r.opened (r.left head anchor s.store))
      (fun u => Within (r.Stage truth s.store) s u ∧
        ∃ head anchor, u.store = r.opened (r.left head anchor s.store)) t := by
  apply outcome_bind
  refine outcome_remove htruth fun u hu => ?_
  obtain ⟨head, hustore⟩ : ∃ head, u.store = r.opened (r.left head true s.store) := by
    rcases hu.store with hu' | hu'
    · exact ⟨false, by rw [hu', Command.store, hstore]; rfl⟩
    · exact ⟨true, hu'.trans hstore⟩
  have hu' : Within (r.Stage truth s.store) s u :=
    hwithin.ran hu (hustore ▸ .opened _ _ fun _ _ => rfl)
  refine ⟨⟨hu', head, true, hustore⟩, fun hdone => ?_⟩
  refine outcome_runCommand fun v hv => ?_
  obtain ⟨head, hustore, hgone⟩ : ∃ head, u.store = r.opened (r.left head true s.store) ∧
      (truth → head = false) := by
    by_cases hyes : truth
    · exact ⟨false, by rw [hdone hyes, Command.store, hstore]; rfl, fun _ => rfl⟩
    · exact ⟨head, hustore, fun h => absurd h hyes⟩
  have hend := within_removeAnchor hu' hustore hgone hv
  exact ⟨hend, hend⟩

/-- Clearing the intent gives back the tags the volume group had before. -/
theorem Removal.Admitted.cleared (h : r.Admitted env volname s) {S : Store}
    (hS : S.vgTags = s.store.vgTags) {current : Record} {tags : List String}
    (hcurrent : decodeVgIntentTags (.array (r.opened S).vgTags) = .ok (some current))
    (htags : vgIntentTags current = .ok tags) :
    (Command.changeVgTags tags []).store (r.opened S) = S := by
  obtain ⟨hback, i, hi, hread⟩ := intent_written h.noIntent h.written
  rw [← hS] at hback hi
  obtain rfl := Option.some.inj (Except.ok.inj (hi.symm.trans hcurrent))
  obtain rfl := Except.ok.inj (hread.again.symm.trans htags)
  rw [Command.store, Removal.opened, hback]

theorem Removal.Admitted.find_head (h : r.Admitted env volname s) :
    s.store.find r.head = some r.anchor.head := by
  obtain ⟨⟨info, hread⟩, -⟩ := thickAnchor_eq_ok.mp h.anchor
  exact hread.head

/-- HEAD and anchor are two logical volumes of the group. -/
theorem Removal.Admitted.head_ne (h : r.Admitted env volname s) : r.head ≠ r.anchor.name := by
  obtain ⟨⟨info, hread⟩, -⟩ := thickAnchor_eq_ok.mp h.anchor
  obtain ⟨space, hspace, hname⟩ := hread.named
  have honly := h.only
  simp only [checkOnlyHead, hspace, bind_eq_ok, Except.ok.injEq, exists_eq_left', dieIf_eq_ok,
    exists_const, decide_eq_false_iff_not, ne_eq, not_not] at honly
  obtain ⟨key, hkey, hnames, -⟩ := honly
  have hmem : r.head ∈ generationsOf key s.store.lvs := by
    rw [hnames]
    exact List.mem_singleton_self _
  simp only [generationsOf, KeyedLists.mem_sortBy, List.mem_filter] at hmem
  obtain ⟨digits, hdigits⟩ := Option.isSome_iff_exists.mp hmem.2
  exact generation_ne_anchor hdigits hname

theorem Removal.Admitted.gone (h : r.Admitted env volname s) {head anchor : Bool}
    (hhead : (r.opened (r.left head anchor s.store)).find r.head = none)
    (hanchor : (r.opened (r.left head anchor s.store)).find r.anchor.name = none) :
    head = false ∧ anchor = false := by
  replace hhead := (r.find_left _).symm.trans hhead
  replace hanchor := (r.find_left _).symm.trans hanchor
  rw [h.find_head] at hhead
  rw [h.info] at hanchor
  constructor
  · by_contra hno
    simp [hno, h.head_ne] at hhead
  · by_contra hno
    simp [hno, h.head_ne.symm] at hanchor

theorem outcome_finishVolumeDelete (h : r.Admitted env volname s)
    (hwithin : Within (r.Stage truth s.store) s t) {head anchor : Bool}
    (hstore : t.store = r.opened (r.left head anchor s.store)) :
    Outcome (finishVolumeDelete env volname r.head r.anchor.name r.intent)
      (fun _ u => Within (r.Stage truth s.store) s u ∧ u.store = r.final s.store)
      (Within (r.Stage truth s.store) s) t := by
  apply outcome_bind
  refine (silent_listVolumes env).outcome hwithin fun after hafter => ?_
  obtain rfl := listVolumes_eq_ok hafter
  apply outcome_bind
  refine ((silent_ask env _).orDie _).outcome hwithin fun _ _ => ?_
  refine outcome_refuse (fun _ => hwithin) fun hgone => ?_
  have hgone' : t.store.find r.head = none ∧ t.store.find r.anchor.name = none := by
    simpa [Store.find] using hgone
  obtain ⟨rfl, rfl⟩ : head = false ∧ anchor = false := by
    rw [hstore] at hgone'
    exact h.gone hgone'.1 hgone'.2
  refine outcome_clearVgIntent hwithin fun current tags hcurrent htags u hu => ?_
  have hclear : (Command.changeVgTags tags []).store t.store = r.final s.store := by
    rw [hstore] at hcurrent ⊢
    exact h.cleared (S := r.final s.store) rfl hcurrent htags
  have hu' : Within (r.Stage truth s.store) s u := by
    refine hwithin.ran hu ?_
    rcases hu.store with h' | h'
    · rw [h', hclear]
      exact .cleared
    · rw [h']
      exact hwithin.1
  exact ⟨hu', fun hustore => ⟨hu', hustore.trans hclear⟩⟩

theorem issues_idleFrontend (mapper : String) :
    Issues (fun command => ∀ S, command.store S = S) (removeIdleFrontend env volname mapper) := by
  have hopens : Silent (frontendOpenCount env mapper) := by
    refine (silent_kernelInventory env).bind fun kernel => ?_
    exact (silent_lift _).bind fun mapping => silent_pure _
  refine issues_silent (silent_ask env _) fun _ => issues_silent hopens fun opens => ?_
  refine issues_silent (silent_refuse _ _) fun _ => ?_
  exact issues_runProven (silent_verifyMapperAbsent env _ _) fun _ => rfl

theorem silent_present : Silent (frontendPresent env volname) := by
  refine (silent_lift _).bind fun space => (silent_lift _).bind fun mapper => ?_
  refine (silent_lift _).bind fun key => (silent_kernelInventory env).bind fun kernel => ?_
  split
  · exact silent_pure _
  · exact (silent_refuse _ _).bind fun _ => silent_pure _

/-- A free that returns has decided on one volume and removed its HEAD and its anchor; one that dies
has done nothing, has left the volume group alone while no intent was open, or has left it at one of
the stages. -/
theorem outcome_freeImage (htruth : truth → env.Truthful) (volname : String)
    (orphanAlloc orphanTree : Bool) (s : Session) : Outcome (freeImageSingleLocked env volname orphanAlloc orphanTree)
      (fun _ t => ∃ r : Removal, r.Admitted env volname s ∧ Within (r.Stage truth s.store) s t ∧
        t.store = r.final s.store)
      (fun t => t = s ∨ (decodeVgIntentTags (.array s.store.vgTags) = .ok none ∧
          Within (fun S => S = s.store) s t) ∨
        ∃ r : Removal, r.Admitted env volname s ∧ Within (r.Stage truth s.store) s t) s := by
  apply outcome_bind
  refine (silent_lift _).outcome (Or.inl rfl) fun _ hconfig => ?_
  apply outcome_bind
  refine (silent_lift _).outcome (Or.inl rfl) fun space _ => ?_
  apply outcome_bind
  refine (silent_lift _).outcome (Or.inl rfl) fun mapper _ => ?_
  apply outcome_bind
  refine (silent_requireNoVgIntent env).outcome (Or.inl rfl) fun _ hnone => ?_
  replace hnone := requireNoVgIntent_eq_ok hnone
  apply outcome_bind
  refine (silent_listVolumes env).outcome (Or.inl rfl) fun lvs hlvs => ?_
  obtain rfl := listVolumes_eq_ok hlvs
  apply outcome_bind
  refine (silent_lift _).outcome (Or.inl rfl) fun anchor hanchor => ?_
  replace hanchor := (lift_eq_ok.mp hanchor).2
  apply outcome_bind
  refine (silent_lift _).outcome (Or.inl rfl) fun _ _ => ?_
  apply outcome_bind
  refine ((silent_ask env _).whenever _).outcome (Or.inl rfl) fun _ _ => ?_
  apply outcome_bind
  refine (silent_lift _).outcome (Or.inl rfl) fun _ honly => ?_
  apply outcome_bind
  refine (silent_verifyAutoactivationDisabled env _).outcome (Or.inl rfl) fun _ hheadOff => ?_
  apply outcome_bind
  refine (silent_verifyAutoactivationDisabled env _).outcome (Or.inl rfl) fun _ hanchorOff => ?_
  apply outcome_bind
  refine silent_present.outcome (Or.inl rfl) fun present _ => ?_
  apply outcome_bind
  refine outcome_of_idle ((issues_idleFrontend mapper).whenever present) fun t ht => ?_
  have hidle {u : Session} (hu : Within (fun S => S = s.store) s u) :
      u = s ∨ (decodeVgIntentTags (.array s.store.vgTags) = .ok none ∧
          Within (fun S => S = s.store) s u) ∨
        ∃ r : Removal, r.Admitted env volname s ∧ Within (r.Stage truth s.store) s u :=
    Or.inr (Or.inl ⟨hnone, hu⟩)
  refine ⟨hidle ht, fun _ => ?_⟩
  apply outcome_bind
  refine outcome_deactivateExactLvs (hidle ht) fun u hu => ?_
  have hustore : u.store = s.store := by
    rcases hu.store with hu' | hu' <;> exact hu'.trans ht.1
  have hu' : Within (fun S => S = s.store) s u := ht.ran hu hustore
  refine ⟨?_, hidle hu'⟩
  apply outcome_bind
  refine (silent_newTransactionId env).outcome (hidle hu') fun tx htx => ?_
  apply outcome_bind
  refine (silent_vgStateDigest env).outcome (hidle hu') fun before _ => ?_
  apply outcome_bind
  refine outcome_setVgIntent (hidle hu') fun written _ hwritten v hv => ?_
  obtain ⟨⟨info, hread⟩, -⟩ := thickAnchor_eq_ok.mp hanchor
  obtain ⟨i, hi, hheadOff⟩ := verifyAutoactivationDisabled_eq_ok hheadOff
  obtain rfl := Option.some.inj (hread.head.symm.trans hi)
  obtain ⟨j, hj, hanchorOff⟩ := verifyAutoactivationDisabled_eq_ok hanchorOff
  obtain rfl := Option.some.inj (hread.present.symm.trans hj)
  let r : Removal := ⟨anchor, info, tx, before, written⟩
  have hr : r.Admitted env volname s :=
    { config := (lift_eq_ok.mp hconfig).2
      noIntent := hnone
      anchor := hanchor
      info := hread.present
      only := (lift_eq_ok.mp honly).2
      headDisabled := hheadOff
      anchorDisabled := hanchorOff
      hex := (newTransactionId_eq_ok htx).2
      written := hwritten }
  have hstart : Within (r.Stage truth s.store) s u := hu'.weaken fun S hS => hS ▸ .before
  have hv' : Within (r.Stage truth s.store) s v := by
    refine hstart.ran hv ?_
    rcases hv.store with hv' | hv' <;> rw [hv', hustore]
    · exact .opened true true fun _ _ => rfl
    · exact .before
  refine ⟨Or.inr (Or.inr ⟨r, hr, hv'⟩), fun hvstore => ?_⟩
  rw [hustore] at hvstore
  apply outcome_bind
  apply outcome_attempt
  have hfinish {w : Session} (hw : Within (r.Stage truth s.store) s w ∧
      ∃ head anchor, w.store = r.opened (r.left head anchor s.store)) :
      Outcome (finishVolumeDelete env volname r.head r.anchor.name r.intent)
        (fun _ t => ∃ r : Removal, r.Admitted env volname s ∧ Within (r.Stage truth s.store) s t ∧
          t.store = r.final s.store)
        (fun t => t = s ∨ (decodeVgIntentTags (.array s.store.vgTags) = .ok none ∧
            Within (fun S => S = s.store) s t) ∨
          ∃ r : Removal, r.Admitted env volname s ∧ Within (r.Stage truth s.store) s t) w := by
    obtain ⟨hwithin, head, anchor, hstore⟩ := hw
    exact (outcome_finishVolumeDelete hr hwithin hstore).weaken (fun _ x hx => ⟨r, hr, hx⟩)
      fun x hx => Or.inr (Or.inr ⟨r, hr, hx⟩)
  exact (outcome_removeObjects htruth hv' hvstore).weaken (fun _ w hw => hfinish hw)
    fun w hw message => hfinish hw

end

end SharedLvmThin.ThickVolume
