import SharedLvmThin.ThinSafetyBurst
import SharedLvmThin.VgReserve

/-!
# What an admission promises

The floors keep every promise where the recomposed counts reach the promised bytes. That is
always so up to `2^53`, and fails for some larger counts in either direction.
-/

namespace SharedLvmThin.ThinSafety
open Perl

/-- What an admission promises: it never shrinks the pool, keeps the burst that its mode covers
within 94 percent of the target, and asks for nothing more once the pool has the target size. -/
structure Promised (args : Args) (plan : Plan) : Prop where
  integral : plan.targetBytes = .int plan.target
  not_below : args.current ≤ plan.target
  growth : plan.growthBytes = (plan.target : Int) - args.current
  full : args.mode = some "full" → args.guarded →
    100 * (args.used + args.requested) ≤ 94 * plan.target
  burst : args.mode = some "elastic" → args.guarded →
    100 * (args.used + min args.requested args.headroom) ≤ 94 * plan.target
  elastic : args.mode = some "elastic" → 100 * args.used ≤ 94 * plan.target
  settled : ∃ again, evaluateAllocationTarget
    { args with currentPoolBytes := some plan.targetBytes.text } = .ok again ∧
      again.growthBytes = 0

def Args.sizesAdmitted (args : Args) : Prop :=
  args.mode ≠ some "fixed" ∧ args.mode ≠ some "proportional" ∧ args.mode ≠ some "elastic"

/-- The recomposed counts reach the promised bytes, or the pool and the unrounded target hold
them anyway; a first pool of the fixed size still holds what is sized for next. -/
structure QuotientReaches (args : Args) : Prop where
  full : args.mode = some "full" → args.guarded →
    100 * (args.used + args.requested) ≤ 94 * args.current ∨
      args.used + args.requested ≤ recomposed (args.admitted args.current) 94
  burst : args.mode = some "elastic" → args.guarded →
    100 * (args.used + min args.requested args.headroom) ≤ 94 * max args.current args.projected ∨
      args.used + min args.requested args.headroom ≤
        max (recomposed args.projected 94) (recomposed args.used 94)
  elastic : args.mode = some "elastic" →
    100 * args.used ≤ 94 * max args.current args.projected ∨
      args.used ≤ recomposed args.used 94 ∨
        args.guarded ∧ args.used ≤ recomposed args.projected 94
  settled : args.sizesAdmitted → args.guarded → args.current = 0 →
    args.requested < args.fixed →
      recomposed (args.used + args.requested) 94 ≤ recomposed (args.used + args.fixed) 94

/-! ## Runs with known usage -/

section
variable {args : Args} {plan : Plan}

theorem evaluate_known (hcheck : checkArgs args = .ok ())
    (hknown : truthy (some (args.usageKnown.getD "1")) = true) :
    evaluateAllocationTarget args = knownUsagePlan args (args.mode.getD "") true := by
  simp only [evaluateAllocationTarget, hcheck, hknown]
  rfl

theorem knownUsagePlan_known {mode : String} {known : Bool}
    (h : knownUsagePlan args mode known = .ok plan) : plan.usageKnown = known := by
  obtain ⟨target, _, h⟩ := bind_eq_ok.mp h
  obtain ⟨capped, _, h⟩ := bind_eq_ok.mp h
  obtain ⟨_, _, h⟩ := bind_eq_ok.mp h
  obtain rfl := pure_eq_ok.mp h
  rfl

theorem known_of_ok (h : evaluateAllocationTarget args = .ok plan)
    (hplan : plan.usageKnown = true) : checkArgs args = .ok () ∧
      truthy (some (args.usageKnown.getD "1")) = true ∧
        knownUsagePlan args (args.mode.getD "") true = .ok plan := by
  obtain ⟨_, hcheck, h⟩ := bind_eq_ok.mp h
  by_cases hknown : truthy (some (args.usageKnown.getD "1")) = true
  · simp only [hknown, Bool.not_true, Bool.false_and, if_neg Bool.false_ne_true] at h
    exact ⟨hcheck, hknown, h⟩
  · rw [Bool.not_eq_true] at hknown
    simp only [hknown, Bool.not_false, Bool.true_and] at h
    split_ifs at h
    · obtain ⟨_, _, h⟩ := bind_eq_ok.mp h
      obtain ⟨_, _, h⟩ := bind_eq_ok.mp h
      obtain rfl := pure_eq_ok.mp h
      exact nomatch hplan
    · rw [knownUsagePlan_known h] at hplan
      exact nomatch hplan

theorem mode_of_checkArgs (h : checkArgs args = .ok ()) :
    args.mode = some (args.mode.getD "") := by
  simp only [checkArgs, missing, bind_eq_ok, forEach_eq_ok, dieIf_eq_ok, exists_const,
    List.forall_mem_cons] at h
  cases hmode : args.mode with
  | none =>
    rw [hmode] at h
    cases h.1.1
  | some mode => rfl

theorem checkArgs_current {v : String} (hv : isDigits v = true) (h : checkArgs args = .ok ()) :
    checkArgs { args with currentPoolBytes := some v } = .ok () := by
  simp only [checkArgs, missing, numeric, bind_eq_ok, forEach_eq_ok, dieIf_eq_ok, exists_const,
    List.forall_mem_cons] at h ⊢
  obtain ⟨⟨hmode, hfixed, hrequested, hused, -, hnil⟩, hmodes, ⟨hdfixed, hdrequested, hdused, -,
    hdnil⟩, hrest⟩ := h
  exact ⟨⟨hmode, hfixed, hrequested, hused, rfl, hnil⟩, hmodes,
    ⟨hdfixed, hdrequested, hdused, by simp [hv], hdnil⟩, hrest⟩

/-- The same request to a pool of another size. -/
def Args.again (args : Args) (current : Nat) : Args :=
  { args with currentPoolBytes := some (Perl.Num.int current).text }

theorem modeTarget_again {mode : String} {c : Nat} {current : Perl.Num} :
    (args.again c).modeTarget mode current = args.modeTarget mode current :=
  rfl

theorem again_current {c : Nat} (hc : c < 2 ^ 64) :
    number (args.again c).currentPoolBytes = .int c ∧ (args.again c).current = c := by
  refine ⟨numify_repr hc, integer_repr c⟩

/-- Asked again, a known usage runs the same way. -/
theorem evaluate_again {c : Nat} (hcheck : checkArgs args = .ok ())
    (hknown : truthy (some (args.usageKnown.getD "1")) = true) :
    evaluateAllocationTarget (args.again c) =
      knownUsagePlan (args.again c) (args.mode.getD "") true :=
  evaluate_known (checkArgs_current (isDigits_repr c) hcheck) hknown

/-- A size that the pool has already is no growth. -/
theorem settled_of_sized {target : Perl.Num} {m c : Nat} (hcheck : checkArgs args = .ok ())
    (hknown : truthy (some (args.usageKnown.getD "1")) = true)
    (hsized : args.modeTarget (args.mode.getD "") (.int c) = .ok target)
    (hcapped : cappedTarget args (args.mode.getD "") ((number args.fixedGib).times gib) target =
      .ok (.int m)) (hm : m ≤ c) (hc : c ≤ signedLimit) :
    ∃ again, evaluateAllocationTarget (args.again c) = .ok again ∧ again.growthBytes = 0 := by
  have hlt : c < 2 ^ 64 := lt_of_le_of_lt hc (by decide)
  obtain ⟨again, hagain, hgrowth⟩ := @knownUsagePlan_of_sized (args.again c) _ true _ m c
    (again_current hlt).1 hsized hcapped (by omega)
  refine ⟨again, ?_, ?_⟩
  · rw [evaluate_again hcheck hknown, hagain]
  · rw [hgrowth, max_eq_right hm, sub_self]

/-! ## The clauses -/

theorem hundred_le_floorFor_iff {n count : Nat} :
    100 * n ≤ 94 * floorFor count 94 ↔ n ≤ recomposed count 94 := by
  rw [Nat.mul_comm]
  exact mul_floorFor_iff (by decide) (by decide)

theorem full_clause {target : Perl.Num} {m : Nat} (h : Sized args "full" plan target m)
    (hguarded : args.guarded) : 100 * (args.used + args.requested) ≤ 94 * max m args.current ↔
      100 * (args.used + args.requested) ≤ 94 * args.current ∨
        args.used + args.requested ≤ recomposed (args.admitted args.current) 94 := by
  obtain rfl := cappedTarget_of_ne (by decide) h.capped
  have hwithin := h.within
  obtain ⟨-, -, rfl⟩ := full_spec (by decide) h.sized (by omega)
  rw [if_pos hguarded, ← hundred_le_floorFor_iff]
  omega

theorem burst_clause {target : Perl.Num} {m n : Nat} (h : Sized args "elastic" plan target m)
    (hguarded : args.guarded) : 100 * n ≤ 94 * max m args.current ↔
      100 * n ≤ 94 * max args.current args.projected ∨
        n ≤ max (recomposed args.projected 94) (recomposed args.used 94) := by
  obtain rfl := cappedTarget_of_ne (by decide) h.capped
  have hwithin := h.within
  obtain rfl := elastic_spec h.sized (by omega)
  rw [if_pos hguarded, le_max_iff, ← hundred_le_floorFor_iff, ← hundred_le_floorFor_iff]
  omega

theorem elastic_clause {target : Perl.Num} {m : Nat} (h : Sized args "elastic" plan target m) :
    100 * args.used ≤ 94 * max m args.current ↔
      100 * args.used ≤ 94 * max args.current args.projected ∨
        args.used ≤ recomposed args.used 94 ∨
          args.guarded ∧ args.used ≤ recomposed args.projected 94 := by
  obtain rfl := cappedTarget_of_ne (by decide) h.capped
  have hwithin := h.within
  obtain rfl := elastic_spec h.sized (by omega)
  rw [← hundred_le_floorFor_iff, ← hundred_le_floorFor_iff]
  by_cases hguarded : args.guarded
  · rw [if_pos hguarded, and_iff_right hguarded]
    omega
  · have hnot : ¬ (args.guarded ∧ 100 * args.used ≤ 94 * floorFor args.projected 94) :=
      fun h => hguarded h.1
    rw [if_neg hguarded, iff_false_intro hnot, or_false]
    omega

theorem floorFor_pos {n : Nat} (hn : 0 < n) : 0 < floorFor n 94 := by
  have hrec : 1 ≤ recomposed n 94 := by
    by_cases hle : n ≤ 2 ^ 53
    · rwa [recomposed_of_le (by decide) (by decide) hle]
    · have hwhole := @le_wholePart n 94 (by decide)
      rw [recomposed]
      omega
  have := (@hundred_le_floorFor_iff 1 n).mpr hrec
  omega

theorem floorFor_le_iff {a b : Nat} :
    floorFor a 94 ≤ floorFor b 94 ↔ recomposed a 94 ≤ recomposed b 94 :=
  ceilDiv_le_iff_le (by decide) (by decide)

theorem sizesAdmitted_iff (hcheck : checkArgs args = .ok ()) : args.sizesAdmitted ↔
    args.mode.getD "" ≠ "fixed" ∧ args.mode.getD "" ≠ "proportional" ∧
      args.mode.getD "" ≠ "elastic" := by
  rw [Args.sizesAdmitted, mode_of_checkArgs hcheck]
  simp only [ne_eq, Option.some.injEq, Option.getD_some]

/-- A mode that does not size for the admitted bytes computes one target for every pool. -/
theorem modeTarget_current {mode : String} (hmode : ¬ (mode ≠ "fixed" ∧ mode ≠ "proportional" ∧
    mode ≠ "elastic")) (a b : Perl.Num) : args.modeTarget mode a = args.modeTarget mode b := by
  simp only [Args.modeTarget, ThinSafety.modeTarget]
  split_ifs with hfixed hproportional helastic
  · rfl
  · rfl
  · rfl
  · exact absurd ⟨hfixed, hproportional, helastic⟩ hmode

/-- A first pool of the fixed size is the only one that is sized differently afterwards. -/
theorem modeTarget_same {mode : String} {c t : Nat} (hsame : c = 0 → t = 0 ∨
    ((number args.requestedKib).times 1024).less ((number args.fixedGib).times gib) = false)
    (hct : c ≤ t) : args.modeTarget mode (.int t) = args.modeTarget mode (.int c) := by
  have hheadroom : fullHeadroom ((number args.requestedKib).times 1024)
      ((number args.fixedGib).times gib) (.int t) = fullHeadroom
        ((number args.requestedKib).times 1024) ((number args.fixedGib).times gib) (.int c) := by
    simp only [fullHeadroom, Perl.Num.int.injEq]
    by_cases hc : c = 0
    · rcases hsame hc with rfl | hless
      · rw [hc]
      · simp only [hless, Bool.false_eq_true, and_false]
    · rw [if_neg (fun h => hc (by omega)), if_neg (fun h => hc h.1)]
  simp only [Args.modeTarget, ThinSafety.modeTarget, hheadroom]

theorem admitted_le {c m : Nat} (hm : m ≤ signedLimit)
    (hsize : m = if args.guarded then floorFor (args.admitted c) 94 else args.admitted c) :
    args.admitted c ≤ signedLimit := by
  by_cases hguarded : args.guarded
  · rw [if_pos hguarded] at hsize
    have := lt_of_floorFor_le (hsize ▸ hm)
    rw [signedLimit]
    omega
  · rw [if_neg hguarded] at hsize
    omega

/-- A first pool that has the fixed size is sized for the request alone the next time. -/
theorem settled_first {target : Perl.Num} {m : Nat} (hcheck : checkArgs args = .ok ())
    (hknown : truthy (some (args.usageKnown.getD "1")) = true)
    (h : Sized args (args.mode.getD "") plan target m) (hmode : args.sizesAdmitted)
    (hfirst : args.current = 0) (hless : args.requested < args.fixed) :
    (∃ again, evaluateAllocationTarget (args.again (max m args.current)) = .ok again ∧
      again.growthBytes = 0) ↔ (args.guarded →
        recomposed (args.used + args.requested) 94 ≤ recomposed (args.used + args.fixed) 94) := by
  have hothers := (sizesAdmitted_iff hcheck).mp hmode
  obtain rfl := cappedTarget_of_ne hothers.2.1 h.capped
  have hwithin := h.within
  obtain ⟨hused, -, hsize⟩ := full_spec hothers h.sized (by omega)
  have hadmitted : args.admitted args.current = args.used + args.fixed := by
    rw [Args.admitted, if_pos hfirst, max_eq_right hless.le]
  have hlt : args.used + args.fixed < 2 ^ 64 := by
    have := admitted_le (by omega) hsize
    rw [hadmitted, signedLimit] at this
    omega
  rw [hadmitted] at hsize
  rw [hfirst, Nat.max_zero] at hwithin ⊢
  have hpos : m ≠ 0 := by
    by_cases hguarded : args.guarded
    · rw [if_pos hguarded] at hsize
      have := @floorFor_pos (args.used + args.fixed) (by omega)
      omega
    · rw [if_neg hguarded] at hsize
      omega
  constructor
  · intro hagain hguarded
    obtain ⟨again, hagain, hgrowth⟩ := hagain
    rw [evaluate_again hcheck hknown] at hagain
    obtain ⟨target', m', hsized⟩ := knownUsagePlan_sized hagain
    have hcurrent : (args.again m).current = m := integer_repr m
    obtain rfl := cappedTarget_of_ne hothers.2.1 hsized.capped
    have hwithin' := hsized.within
    have hle := hsized.growth
    rw [hgrowth, hcurrent] at hle
    have hagain_sized := hsized.sized
    rw [hcurrent, modeTarget_again] at hagain_sized
    obtain ⟨-, -, hsize'⟩ := full_spec hothers hagain_sized (by omega)
    rw [if_pos hguarded] at hsize hsize'
    rw [Args.admitted, if_neg hpos] at hsize'
    rw [← floorFor_le_iff]
    omega
  · intro hle
    have hrequested := (spells_requested args).eq_int (by omega)
    have hfloor : args.guarded → floorFor (args.used + args.requested) 94 ≤ m := by
      intro hguarded
      rw [hsize, if_pos hguarded]
      exact floorFor_le_iff.mpr (hle hguarded)
    have hsmaller : (if args.guarded then floorFor (args.used + args.requested) 94
        else args.used + args.requested) ≤ m := by
      split_ifs with hguarded
      · exact hfloor hguarded
      · rw [hsize, if_neg hguarded]
        omega
    have hagain := full_again hothers hused hrequested hpos (by omega)
      (fun hguarded => (hfloor hguarded).trans hwithin)
    exact settled_of_sized hcheck hknown hagain
      (cappedTarget_anti hothers.2.1 hsmaller hwithin h.capped) hsmaller hwithin

/-- The fixed size is not chosen when the request is at least as large. -/
theorem not_less_fixed {target : Perl.Num} {m : Nat} (hcheck : checkArgs args = .ok ())
    (h : Sized args (args.mode.getD "") plan target m) (hmode : args.sizesAdmitted)
    (hfirst : args.current = 0) (hle : args.fixed ≤ args.requested) :
    ((number args.requestedKib).times 1024).less ((number args.fixedGib).times gib) = false := by
  have hothers := (sizesAdmitted_iff hcheck).mp hmode
  obtain rfl := cappedTarget_of_ne hothers.2.1 h.capped
  have hwithin := h.within
  obtain ⟨-, hheadroom, hsize⟩ := full_spec hothers h.sized (by omega)
  have hlimit := admitted_le (by omega) hsize
  by_contra hless
  rw [Bool.not_eq_false] at hless
  rw [fullHeadroom, if_pos ⟨by rw [hfirst], hless⟩] at hheadroom
  have hfixed := spells_fixed args
  have hrequested := spells_requested args
  rw [hheadroom] at hfixed hless
  obtain ⟨r, hr, hint⟩ := hrequested.wide.int_of_less (by rw [signedLimit] at hlimit; omega) hless
  rw [hint] at hrequested
  have hreq := hrequested.eq_of_int
  have hfix := hfixed.eq_of_int
  omega

theorem settled_clause {target : Perl.Num} {m : Nat} (hcheck : checkArgs args = .ok ())
    (hknown : truthy (some (args.usageKnown.getD "1")) = true)
    (h : Sized args (args.mode.getD "") plan target m) :
    (∃ again, evaluateAllocationTarget (args.again (max m args.current)) = .ok again ∧
      again.growthBytes = 0) ↔ (args.sizesAdmitted → args.guarded → args.current = 0 →
        args.requested < args.fixed →
          recomposed (args.used + args.requested) 94 ≤ recomposed (args.used + args.fixed) 94) := by
  by_cases hfirst : args.sizesAdmitted ∧ args.current = 0 ∧ args.requested < args.fixed
  · obtain ⟨hmode, hzero, hless⟩ := hfirst
    rw [settled_first hcheck hknown h hmode hzero hless]
    exact ⟨fun himp _ hguarded _ _ => himp hguarded,
      fun himp hguarded => himp hmode hguarded hzero hless⟩
  · have hsame : args.modeTarget (args.mode.getD "") (.int (max m args.current)) = .ok target := by
      rw [← h.sized]
      by_cases hmode : args.sizesAdmitted
      · refine modeTarget_same ?_ (le_max_right _ _)
        intro hzero
        right
        exact not_less_fixed hcheck h hmode hzero (by
          by_contra hless
          exact hfirst ⟨hmode, hzero, by omega⟩)
      · exact modeTarget_current (fun hothers => hmode ((sizesAdmitted_iff hcheck).mpr hothers)) _ _
    constructor
    · intro _ hmode _ hzero hless
      exact absurd ⟨hmode, hzero, hless⟩ hfirst
    · intro _
      exact settled_of_sized hcheck hknown hsame h.capped (le_max_left _ _) h.within

/-- An admission with known usage keeps its promise exactly when the quotients reach it. -/
theorem promised_iff (h : evaluateAllocationTarget args = .ok plan)
    (hplan : plan.usageKnown = true) : Promised args plan ↔ QuotientReaches args := by
  obtain ⟨hcheck, hknown, h⟩ := known_of_ok h hplan
  obtain ⟨target, m, hsized⟩ := knownUsagePlan_sized h
  have htarget : plan.target = max m args.current :=
    by rw [Plan.target, hsized.target, Perl.Num.value]
  have hagain : { args with currentPoolBytes := some plan.targetBytes.text } =
      args.again (max m args.current) := by rw [hsized.target, Args.again]
  have hsettled := settled_clause hcheck hknown hsized
  constructor
  · intro hpromised
    refine ⟨?_, ?_, ?_, ?_⟩
    · intro hmode hguarded
      rw [hmode] at hsized
      rw [← full_clause hsized hguarded, ← htarget]
      exact hpromised.full hmode hguarded
    · intro hmode hguarded
      rw [hmode] at hsized
      rw [← burst_clause hsized hguarded, ← htarget]
      exact hpromised.burst hmode hguarded
    · intro hmode
      rw [hmode] at hsized
      rw [← elastic_clause hsized, ← htarget]
      exact hpromised.elastic hmode
    · rw [← hsettled, ← hagain]
      exact hpromised.settled
  · intro hreaches
    refine ⟨?_, ?_, ?_, ?_, ?_, ?_, ?_⟩
    · rw [htarget, hsized.target]
    · rw [htarget]
      exact le_max_right _ _
    · rw [htarget, hsized.growth]
    · intro hmode hguarded
      rw [hmode] at hsized
      rw [htarget, full_clause hsized hguarded]
      exact hreaches.full hmode hguarded
    · intro hmode hguarded
      rw [hmode] at hsized
      rw [htarget, burst_clause hsized hguarded]
      exact hreaches.burst hmode hguarded
    · intro hmode
      rw [hmode] at hsized
      rw [htarget, elastic_clause hsized]
      exact hreaches.elastic hmode
    · rw [hagain, hsettled]
      exact hreaches.settled

end

/-- Where every count that is sized for is recomposed, the quotients reach the promise. -/
theorem quotientReaches_of_recomposed {args : Args}
    (h : ∀ n ≤ args.used + max args.requested (max args.fixed gib),
      recomposed n 94 = n) : QuotientReaches args := by
  have hused := h args.used (Nat.le_add_right _ _)
  constructor
  · intro _ _
    right
    rw [h, Args.admitted]
    · split_ifs <;> omega
    · rw [Args.admitted]
      split_ifs <;> omega
  · intro _ _
    right
    rw [hused, h, Args.projected]
    · omega
    · rw [Args.projected]
      omega
  · intro _
    right
    left
    exact hused.ge
  · intro _ _ _ hless
    rw [h _ (by omega), h _ (by omega)]
    omega

/-- No promise is broken while the counts stay within `2^53`. -/
theorem promised_of_le {args : Args} {plan : Plan} (h : evaluateAllocationTarget args = .ok plan)
    (hplan : plan.usageKnown = true)
    (hle : args.used + max args.requested (max args.fixed gib) ≤ 2 ^ 53) : Promised args plan :=
  (promised_iff h hplan).mpr (quotientReaches_of_recomposed fun _ hn =>
    recomposed_of_le (by decide) (by decide) (hn.trans hle))

/-- Growth in whole extents is modelled on exact quotients; up to `2^53` these are the same. -/
theorem minimum_eq_vgReserve {n t : Nat} (hn : n ≤ 2 ^ 53) :
    minimumPoolBytesForUsed (some n.repr) none = .ok (some (.int t)) ↔
      VgReserve.minimumPoolBytesForUsed n = .ok t := by
  have hexact : floorFor n 94 = n / 94 * 100 + (n % 94 * 100 + 94 - 1) / 94 := by
    rw [floorFor_eq (by decide), wholePart_of_le (by decide) (by decide) hn]
  have hle : floorFor n 94 ≤ signedLimit := by
    rw [hexact, signedLimit]
    omega
  rw [← Perl.Num.text, minimum_text_of_le (by omega) hle]
  simp only [VgReserve.minimumPoolBytesForUsed, ← hexact, bind_eq_ok, dieIf_eq_ok, pure_eq_ok,
    exists_const, Except.ok.injEq, Option.some.injEq, Perl.Num.int.injEq, decide_eq_false_iff_not,
    not_lt]
  exact ⟨fun h => ⟨hle, h⟩, fun h => h.2⟩

/-- The floor is the least sufficient size exactly when quotient and remainder give the byte
count back, and an admission keeps its promise exactly when they reach the promised bytes. -/
theorem burst_kept_iff (usedBytes : String) (percent : Option String) (result : Option Perl.Num)
    (args : Args) (plan : Plan) :
    (minimumPoolBytesForUsed (some usedBytes) percent = .ok result →
      ((∃ target, result = some (.int target) ∧ IsLeast
          {size | integer usedBytes * 100 ≤ integer (percent.getD "94") * size} target) ↔
        integer usedBytes < 2 ^ 64 ∧
          recomposed (integer usedBytes) (integer (percent.getD "94")) = integer usedBytes)) ∧
      (evaluateAllocationTarget args = .ok plan →
        plan.usageKnown = true → (Promised args plan ↔ QuotientReaches args)) :=
  ⟨fun h => minimum_least_iff h, fun h hplan => promised_iff h hplan⟩

/-- 4 GiB more for a pool of 32 GiB that holds 30 GiB. -/
def smallArgs : Args :=
  { mode := some "full", fixedGib := some "16", requestedKib := some "4194304"
    usedBytes := some "32212254720", currentPoolBytes := some "34359738368", percent := none
    headroomGib := none, maxGib := none, usageKnown := none, guardProjectedWrite := some "1" }

def smallPlan : Plan :=
  { targetBytes := .int 38837470230, growthBytes := 4477731862
    requestedBytes := .int 4294967296, burstGuarantee := "FULL_AT_ADMISSION"
    headroomBytes := none, usageKnown := true }

theorem burst_kept_small :
    (∃ target, some (Perl.Num.int 38837470230) = some (.int target) ∧ IsLeast
      {size | integer "36507222016" * 100 ≤ integer ((none : Option String).getD "94") * size}
        target) ∧ evaluateAllocationTarget smallArgs = .ok smallPlan ∧
          Promised smallArgs smallPlan := by
  have hfloor : minimumPoolBytesForUsed (some "36507222016") none =
      .ok (some (.int 38837470230)) := rfl
  have hplan : evaluateAllocationTarget smallArgs = .ok smallPlan := by decide +kernel
  have hsmall : smallArgs.used + max smallArgs.requested (max smallArgs.fixed gib) ≤ 2 ^ 53 := by
    decide +kernel
  have hcount : integer "36507222016" ≤ 2 ^ 53 := by decide +kernel
  refine ⟨((burst_kept_iff _ _ _ smallArgs smallPlan).1 hfloor).mpr ⟨by omega, ?_⟩, hplan,
    ((burst_kept_iff "" none none _ _).2 hplan rfl).mpr
      (quotientReaches_of_recomposed fun n hn => ?_)⟩
  · exact recomposed_of_le (by decide) (by decide) hcount
  · exact recomposed_of_le (by decide) (by decide) (hn.trans hsmall)

/-- 1 GiB more for a pool of 95 PB. -/
def largeArgs : Args :=
  { mode := some "full", fixedGib := some "16", requestedKib := some "1048576"
    usedBytes := some "92998942019866055", currentPoolBytes := some "95000000000000000"
    percent := none, headroomGib := none, maxGib := none, usageKnown := none
    guardProjectedWrite := some "1" }

def largePlan : Plan :=
  { targetBytes := .int 98935045844263602, growthBytes := 3935045844263602
    requestedBytes := .int 1073741824, burstGuarantee := "FULL_AT_ADMISSION"
    headroomBytes := none, usageKnown := true }

/-- The double quotient of 92998943093607879 by 94 is one too small, that of 188000000000000093
one too large: an admitted burst passes 94 percent, and a floor is not the least one. -/
theorem burst_not_kept :
    ¬ (∀ (args : Args) (plan : Plan), evaluateAllocationTarget args = .ok plan →
      plan.usageKnown = true → Promised args plan) ∧
    ¬ ∀ (usedBytes : String) (percent : Option String) (result : Option Perl.Num),
      minimumPoolBytesForUsed (some usedBytes) percent = .ok result →
        ∃ target, result = some (.int target) ∧ IsLeast
          {size | integer usedBytes * 100 ≤ integer (percent.getD "94") * size} target := by
  constructor
  · intro hall
    have hplan : evaluateAllocationTarget largeArgs = .ok largePlan := by decide +kernel
    have hguarded : largeArgs.guarded := by decide
    have hfull := (hall _ _ hplan rfl).full rfl hguarded
    revert hfull
    decide +kernel
  · intro hall
    have hfloor : minimumPoolBytesForUsed (some "188000000000000093") none =
        .ok (some (.int 200000000000000199)) := rfl
    obtain ⟨target, htarget, -, hleast⟩ := hall _ _ _ hfloor
    obtain rfl := Perl.Num.int.inj (Option.some.inj htarget)
    have hused : integer "188000000000000093" = 188000000000000093 := by decide +kernel
    have hpercent : integer ((none : Option String).getD "94") = 94 := by decide
    have hsmaller : 200000000000000199 ≤ 200000000000000099 := by
      refine hleast ?_
      rw [Set.mem_ofPred_eq, hused, hpercent]
      norm_num
    norm_num at hsmaller

end SharedLvmThin.ThinSafety
