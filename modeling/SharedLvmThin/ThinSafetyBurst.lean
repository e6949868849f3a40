import SharedLvmThin.ThinSafetyBounds

/-!
# The sizes of the modes

The integers that the arguments spell and the size that each mode computes from them.
-/

namespace SharedLvmThin.ThinSafety
open Perl

section
variable (args : Args)

def Args.used : Nat := integer (args.usedBytes.getD "")

def Args.requested : Nat := integer (args.requestedKib.getD "") * 1024

def Args.fixed : Nat := integer (args.fixedGib.getD "") * gib

def Args.current : Nat := integer (args.currentPoolBytes.getD "")

/-- The configured burst of `elastic`. -/
def Args.headroom : Nat := integer (args.headroomGib.getD "64") * gib

abbrev Args.guarded : Prop := truthy args.guardProjectedWrite = true

/-- The bytes that `elastic` counts as used at the end of a burst. -/
def Args.projected : Nat := args.used + max (min args.requested args.headroom) gib

/-- The bytes that `full` counts as used; a first pool is not below the fixed size. -/
def Args.admitted (current : Nat) : Nat :=
  args.used + if current = 0 then max args.requested args.fixed else args.requested

end

def Plan.target (plan : Plan) : Nat := plan.targetBytes.value

/-! ## The steps -/

section
variable {args : Args} {mode : String} {a b fixed requested used current : Perl.Num}

theorem raised_eq_int {floor m : Nat} (ha : a.Wide) (hfloor : floor ≤ signedLimit)
    (h : raised a (some (.int floor)) = .int m) : ∃ n, a = .int n ∧ m = max n floor := by
  simp only [raised] at h
  split_ifs at h with hless
  · obtain ⟨n, hn, rfl⟩ := ha.int_of_less hfloor hless
    obtain rfl := Perl.Num.int.inj h
    exact ⟨n, rfl, by omega⟩
  · subst h
    simp only [Perl.Num.less, decide_eq_true_eq] at hless
    exact ⟨m, rfl, by omega⟩

theorem wide_raised {safe : Option Perl.Num} (ha : a.Wide) (hsafe : ∀ b ∈ safe, b.Wide) :
    (raised a safe).Wide := by
  cases safe with
  | none => exact ha
  | some b =>
    simp only [raised]
    split_ifs
    · exact hsafe b rfl
    · exact ha

theorem minimum_wide {usedBytes : Option String} {result : Option Perl.Num}
    (h : minimumPoolBytesForUsed usedBytes none = .ok result) : ∀ b ∈ result, b.Wide := by
  intro b hb
  cases usedBytes with
  | none => exact nomatch h
  | some s =>
    obtain ⟨-, -, ⟨rfl, -, hle⟩ | ⟨rfl, -⟩⟩ := minimum_spec h
    · obtain rfl := Option.some.inj hb
      exact .int (lt_of_le_of_lt hle (by decide))
    · exact nomatch hb

theorem projectedTarget_spec {m : Nat} (ha : a.Wide)
    (h : projectedTarget args a = .ok (.int m)) : ∃ n, a = .int n ∧
      m = if args.guarded then max n (floorFor n 94) else n := by
  simp only [projectedTarget] at h
  split_ifs at h with hguard
  · obtain ⟨projectedSafe, hsafe, h⟩ := bind_eq_ok.mp h
    obtain ⟨n, rfl, rfl, hle⟩ := minimum_text_spec ha hsafe
    obtain ⟨n', hn, rfl⟩ := raised_eq_int ha hle (pure_eq_ok.mp h)
    obtain rfl := Perl.Num.int.inj hn
    exact ⟨n, rfl, (if_pos hguard).symm⟩
  · obtain rfl := pure_eq_ok.mp h
    exact ⟨m, rfl, (if_neg hguard).symm⟩

theorem fullTarget_spec {m : Nat} (ha : a.Wide) (h : fullTarget args a = .ok (.int m)) :
    ∃ n, a = .int n ∧ m = (if args.guarded then floorFor n 94 else n) ∧
      (args.guarded → floorFor n 94 ≤ signedLimit) := by
  simp only [fullTarget] at h
  split_ifs at h with hguard
  · obtain ⟨projectedSafe, hsafe, h⟩ := bind_eq_ok.mp h
    obtain ⟨n, rfl, rfl, hle⟩ := minimum_text_spec ha hsafe
    have hm : floorFor n 94 = m := Perl.Num.int.inj (pure_eq_ok.mp h)
    exact ⟨n, rfl, by rw [if_pos hguard, hm], fun _ => hle⟩
  · obtain rfl := pure_eq_ok.mp h
    exact ⟨m, rfl, (if_neg hguard).symm, fun hguarded => absurd hguarded hguard⟩

theorem elasticHeadroom_spec {h r d : Nat} (hr : requested.Spells r) (hd : fixed.Spells d)
    (heq : elasticHeadroom fixed requested = .int h) (hle : h ≤ signedLimit) :
    h = max (min r d) gib := by
  simp only [elasticHeadroom] at heq
  have hwide : (if requested.less fixed then requested else fixed).Wide := by
    split_ifs
    · exact hr.wide
    · exact hd.wide
  have hmin := fun x (hx : (if requested.less fixed then requested else fixed) = .int x) =>
    hr.min_of_int hd hx
  generalize (if requested.less fixed then requested else fixed) = x at heq hwide hmin
  have hgib : gib ≤ signedLimit := by decide
  split_ifs at heq with hless
  · obtain rfl := Perl.Num.int.inj heq
    obtain ⟨n, hn, rfl⟩ := hwide.int_of_less hgib hless
    have := hmin n rfl
    omega
  · subst heq
    simp only [Perl.Num.less, decide_eq_true_eq] at hless
    have := hmin h rfl
    omega

theorem fullHeadroom_spec {h r f c : Nat} (hr : requested.Spells r) (hf : fixed.Spells f)
    (heq : fullHeadroom requested fixed (.int c) = .int h) (hle : h ≤ signedLimit) :
    h = if c = 0 then max r f else r := by
  simp only [fullHeadroom, Perl.Num.int.injEq] at heq
  by_cases hc : c = 0
  · simp only [hc, true_and] at heq
    rw [if_pos hc]
    split_ifs at heq with hless
    · subst heq
      obtain rfl := hf.eq_of_int
      obtain ⟨n, hn, rfl⟩ := hr.wide.int_of_less hle hless
      obtain rfl := hr.eq_of_int
      omega
    · subst heq
      obtain rfl := hr.eq_of_int
      rw [Bool.not_eq_true] at hless
      obtain ⟨n, hn, rfl⟩ := hf.wide.int_of_not_less hle hless
      obtain rfl := hf.eq_of_int
      omega
  · simp only [hc, false_and, if_false] at heq
    subst heq
    rw [if_neg hc, hr.eq_of_int]

end

/-! ## The numbers behind the arguments -/

section
variable (args : Args)

theorem spells_used : (number args.usedBytes).Spells args.used := spells_numify _

theorem spells_requested : ((number args.requestedKib).times 1024).Spells args.requested :=
  (spells_numify _).times (by decide)

theorem spells_fixed : ((number args.fixedGib).times gib).Spells args.fixed :=
  (spells_numify _).times (by decide)

theorem spells_current : (number args.currentPoolBytes).Spells args.current := spells_numify _

end

/-! ## The modes -/

section
variable {args : Args} {mode : String} {current target : Perl.Num} {m : Nat}

/-- The target of a mode for the numbers of the arguments. -/
def Args.modeTarget (args : Args) (mode : String) (current : Perl.Num) : Except String Perl.Num :=
  ThinSafety.modeTarget args mode ((number args.requestedKib).times 1024)
    ((number args.fixedGib).times gib) (number args.usedBytes) current

theorem wide_proportionalTarget {percent : Nat} {requested fixed used : Perl.Num} (hf : fixed.Wide)
    (hu : used.Wide) : (proportionalTarget percent requested fixed used).Wide := by
  simp only [proportionalTarget]
  refine wide_add hu ?_
  split_ifs
  · exact wide_intDiv _ _
  · exact hf

theorem wide_elasticHeadroom {headroom requested : Perl.Num} (hh : headroom.Wide)
    (hr : requested.Wide) : (elasticHeadroom headroom requested).Wide := by
  simp only [elasticHeadroom]
  split_ifs
  · exact .int (by decide)
  · exact hr
  · exact .int (by decide)
  · exact hh

theorem wide_fullHeadroom {requested fixed : Perl.Num} (hr : requested.Wide) (hf : fixed.Wide) :
    (fullHeadroom requested fixed current).Wide := by
  simp only [fullHeadroom]
  split_ifs
  · exact hf
  · exact hr

theorem wide_projectedTarget {a : Perl.Num} (ha : a.Wide) (h : projectedTarget args a =
    .ok target) :
    target.Wide := by
  simp only [projectedTarget] at h
  split_ifs at h
  · obtain ⟨projectedSafe, hsafe, h⟩ := bind_eq_ok.mp h
    obtain rfl := pure_eq_ok.mp h
    exact wide_raised ha (minimum_wide hsafe)
  · obtain rfl := pure_eq_ok.mp h
    exact ha

theorem wide_elasticTarget {headroom requested used : Perl.Num} (hh : headroom.Wide)
    (hr : requested.Wide) (hu : used.Wide)
    (h : elasticTarget args headroom requested used = .ok target) : target.Wide := by
  obtain ⟨projected, hprojected, h⟩ := bind_eq_ok.mp h
  obtain ⟨capacitySafe, hsafe, h⟩ := bind_eq_ok.mp h
  obtain rfl := pure_eq_ok.mp h
  have hwide := wide_projectedTarget (wide_add hu (wide_elasticHeadroom hh hr)) hprojected
  exact wide_raised hwide (minimum_wide hsafe)

theorem wide_fullTarget {a : Perl.Num} (ha : a.Wide) (h : fullTarget args a = .ok target) :
    target.Wide := by
  simp only [fullTarget] at h
  split_ifs at h
  · obtain ⟨projectedSafe, hsafe, h⟩ := bind_eq_ok.mp h
    obtain rfl := pure_eq_ok.mp h
    cases projectedSafe with
    | none => exact ha
    | some b => exact minimum_wide hsafe b rfl
  · obtain rfl := pure_eq_ok.mp h
    exact ha

theorem headroomGibOf_eq_ok {n : Perl.Num} (h : headroomGibOf args = .ok n) :
    n = numify (args.headroomGib.getD "64") := by
  obtain ⟨-, -, h⟩ := bind_eq_ok.mp h
  exact (pure_eq_ok.mp h).symm

theorem wide_modeTarget (h : args.modeTarget mode current = .ok target) : target.Wide := by
  have hr := (spells_requested args).wide
  have hf := (spells_fixed args).wide
  have hu := (spells_used args).wide
  simp only [Args.modeTarget, ThinSafety.modeTarget] at h
  split_ifs at h
  · obtain rfl := pure_eq_ok.mp h
    exact hf
  · obtain ⟨percent, -, h⟩ := bind_eq_ok.mp h
    obtain rfl := pure_eq_ok.mp h
    exact wide_proportionalTarget hf hu
  · obtain ⟨headroomGib, hheadroom, h⟩ := bind_eq_ok.mp h
    obtain rfl := headroomGibOf_eq_ok hheadroom
    exact wide_elasticTarget (wide_times (by decide) (wide_numify _)) hr hu h
  · exact wide_fullTarget (wide_add hu (wide_fullHeadroom hr hf)) h

/-- The guarded or unguarded size for the bytes at the end of a burst. -/
theorem elastic_projected {headroom : Perl.Num} (hd : headroom.Spells args.headroom)
    (h : projectedTarget args ((number args.usedBytes).add
      (elasticHeadroom headroom ((number args.requestedKib).times 1024))) = .ok (.int m))
    (hm : m ≤ signedLimit) : args.used < 2 ^ 64 ∧
      m = if args.guarded then max args.projected (floorFor args.projected 94)
        else args.projected := by
  have hr := spells_requested args
  have hu := spells_used args
  obtain ⟨n, hn, hmax⟩ :=
    projectedTarget_spec (wide_add hu.wide (wide_elasticHeadroom hd.wide hr.wide)) h
  have hle : n ≤ m := by
    rw [hmax]
    split_ifs <;> omega
  obtain ⟨u, e, hused, hheadroom, rfl, -⟩ := add_eq_int.mp hn
  rw [hused] at hu
  have he : e = max (min args.requested args.headroom) gib :=
    elasticHeadroom_spec hr hd hheadroom (by omega)
  obtain rfl := hu.eq_of_int
  have hprojected : args.used + e = args.projected := by rw [he, Args.projected]
  rw [hprojected] at hmax
  exact ⟨by rw [signedLimit] at hm; omega, hmax⟩

/-- `elastic` sizes for the burst, guarded or not, and for the bytes used now. -/
theorem elastic_spec (h : args.modeTarget "elastic" current = .ok (.int m))
    (hm : m ≤ signedLimit) :
    m = max (if args.guarded then max args.projected (floorFor args.projected 94)
      else args.projected) (floorFor args.used 94) := by
  simp only [Args.modeTarget, ThinSafety.modeTarget, String.reduceEq, if_false, if_true] at h
  obtain ⟨headroomGib, hheadroom, h⟩ := bind_eq_ok.mp h
  obtain rfl := headroomGibOf_eq_ok hheadroom
  have hd : ((numify (args.headroomGib.getD "64")).times gib).Spells args.headroom :=
    (spells_numify _).times (by decide)
  obtain ⟨projected, hprojected, h⟩ := bind_eq_ok.mp h
  obtain ⟨capacitySafe, hsafe, h⟩ := bind_eq_ok.mp h
  have hwide : projected.Wide := wide_projectedTarget (wide_add (spells_used args).wide
    (wide_elasticHeadroom hd.wide (spells_requested args).wide)) hprojected
  obtain ⟨s, hs⟩ : ∃ s, args.usedBytes = some s := by
    cases hused : args.usedBytes with
    | none =>
      rw [hused] at hsafe
      exact nomatch hsafe
    | some s => exact ⟨s, rfl⟩
  have hused : integer s = args.used := by rw [Args.used, hs, Option.getD_some]
  have hdefault : integer ((none : Option String).getD "94") = 94 := by decide
  rw [hs] at hsafe
  obtain ⟨-, -, hspec⟩ := minimum_spec hsafe
  rw [hdefault, hused] at hspec
  rcases hspec with ⟨rfl, -, hle⟩ | ⟨rfl, hge⟩
  · obtain ⟨n, rfl, rfl⟩ := raised_eq_int hwide hle (pure_eq_ok.mp h)
    rw [(elastic_projected hd hprojected (by omega)).2]
  · obtain rfl := pure_eq_ok.mp h
    have hlt := (elastic_projected hd hprojected hm).1
    omega

/-- A mode outside the other three sizes for the admitted bytes. -/
theorem full_spec {c : Nat} (hmode : mode ≠ "fixed" ∧ mode ≠ "proportional" ∧ mode ≠ "elastic")
    (h : args.modeTarget mode (.int c) = .ok (.int m)) (hm : m ≤ signedLimit) :
    number args.usedBytes = .int args.used ∧
      (fullHeadroom ((number args.requestedKib).times 1024) ((number args.fixedGib).times gib)
        (.int c) = .int (args.admitted c - args.used)) ∧
      m = if args.guarded then floorFor (args.admitted c) 94 else args.admitted c := by
  have hr := spells_requested args
  have hf := spells_fixed args
  have hu := spells_used args
  simp only [Args.modeTarget, ThinSafety.modeTarget, hmode.1, hmode.2.1, hmode.2.2, if_false] at h
  obtain ⟨n, hn, hsize, hguard⟩ :=
    fullTarget_spec (wide_add hu.wide (wide_fullHeadroom hr.wide hf.wide)) h
  have hle : n ≤ signedLimit := by
    by_cases hguarded : args.guarded
    · have := lt_of_floorFor_le (hguard hguarded)
      rw [signedLimit]
      omega
    · rw [if_neg hguarded] at hsize
      omega
  obtain ⟨u, e, hused, hheadroom, rfl, -⟩ := add_eq_int.mp hn
  rw [hused] at hu
  have he := fullHeadroom_spec hr hf hheadroom (by omega)
  obtain rfl := hu.eq_of_int
  have hadmitted : args.used + e = args.admitted c := by rw [he, Args.admitted]
  refine ⟨hused, ?_, ?_⟩
  · rw [hheadroom, ← hadmitted, Nat.add_sub_cancel_left]
  · rw [hsize, hadmitted]

/-- The same size again for a pool that exists. -/
theorem full_again {c : Nat} (hmode : mode ≠ "fixed" ∧ mode ≠ "proportional" ∧ mode ≠ "elastic")
    (hused : number args.usedBytes = .int args.used)
    (hrequested : (number args.requestedKib).times 1024 = .int args.requested) (hc : c ≠ 0)
    (hlt : args.used + args.requested < 2 ^ 64)
    (hguard : args.guarded → floorFor (args.used + args.requested) 94 ≤ signedLimit) :
    args.modeTarget mode (.int c) = .ok (.int (if args.guarded then
      floorFor (args.used + args.requested) 94 else args.used + args.requested)) := by
  have hheadroom : fullHeadroom ((number args.requestedKib).times 1024)
      ((number args.fixedGib).times gib) (.int c) = .int args.requested := by
    rw [fullHeadroom, if_neg (by simp [hc]), hrequested]
  have hsum : (number args.usedBytes).add (.int args.requested) =
      .int (args.used + args.requested) :=
    add_eq_int.mpr ⟨_, _, hused, rfl, rfl, hlt⟩
  simp only [Args.modeTarget, ThinSafety.modeTarget, hmode.1, hmode.2.1, hmode.2.2, if_false,
    hheadroom, hsum, fullTarget]
  by_cases hguarded : args.guarded
  · rw [if_pos hguarded, if_pos hguarded, minimum_text_of_le hlt (hguard hguarded)]
    rfl
  · rw [if_neg hguarded, if_neg hguarded]
    rfl

end

/-! ## The evaluator -/

section
variable {args : Args} {plan : Plan}

theorem cappedTarget_of_ne {mode : String} {fixed target capped : Perl.Num}
    (hmode : mode ≠ "proportional") (h : cappedTarget args mode fixed target = .ok capped) :
    capped = target := by
  simp only [cappedTarget] at h
  split at h
  · exact (pure_eq_ok.mp h).symm
  · obtain ⟨-, -, h⟩ := bind_eq_ok.mp h
    obtain ⟨-, -, h⟩ := bind_eq_ok.mp h
    obtain ⟨-, -, h⟩ := bind_eq_ok.mp h
    have hcapped := (pure_eq_ok.mp h).symm
    rw [hcapped, decide_eq_false hmode, Bool.false_and, if_neg Bool.false_ne_true]

/-- A smaller target passes the cap as well. -/
theorem cappedTarget_anti {mode : String} {fixed : Perl.Num} {m n : Nat}
    (hmode : mode ≠ "proportional")
    (hle : n ≤ m) (hm : m ≤ signedLimit)
    (h : cappedTarget args mode fixed (.int m) = .ok (.int m)) :
    cappedTarget args mode fixed (.int n) = .ok (.int n) := by
  simp only [cappedTarget] at h ⊢
  split at h
  · rfl
  · rename_i maxGib _
    simp only [bind_eq_ok, dieIf_eq_ok, pure_eq_ok, exists_const, decide_eq_false hmode,
      Bool.false_and, Bool.and_eq_false_iff, true_and] at h ⊢
    refine ⟨h.1, h.2.1.imp_right ?_, if_neg Bool.false_ne_true⟩
    intro hless
    by_contra hn
    rw [Bool.not_eq_false] at hn
    have hwide : ((numify maxGib).times gib).Wide := wide_times (by decide) (wide_numify _)
    obtain ⟨x, hx, hmaximum⟩ := hwide.int_of_less (hle.trans hm) hn
    rw [hmaximum] at hless
    simp only [Perl.Num.less, decide_eq_false_iff_not] at hless
    omega

theorem wide_cappedTarget {mode : String} {fixed target capped : Perl.Num} (ht : target.Wide)
    (h : cappedTarget args mode fixed target = .ok capped) : capped.Wide := by
  simp only [cappedTarget] at h
  split at h
  · obtain rfl := pure_eq_ok.mp h
    exact ht
  · obtain ⟨-, -, h⟩ := bind_eq_ok.mp h
    obtain ⟨-, -, h⟩ := bind_eq_ok.mp h
    obtain ⟨-, -, h⟩ := bind_eq_ok.mp h
    obtain rfl := pure_eq_ok.mp h
    split_ifs
    · exact wide_times (by decide) (wide_numify _)
    · exact ht

/-- The final size is the larger of the sized target and the pool, both integer scalars. -/
theorem clamped_eq_int {a b : Perl.Num} {t : Nat} (ha : a.Wide) (hb : b.Wide) (ht : t ≤ signedLimit)
    (h : (if a.less b then b else a) = .int t) :
    ∃ m c, a = .int m ∧ b = .int c ∧ t = max m c := by
  split_ifs at h with hless
  · subst h
    obtain ⟨m, hm, rfl⟩ := ha.int_of_less ht hless
    exact ⟨m, t, rfl, rfl, by omega⟩
  · subst h
    rw [Bool.not_eq_true] at hless
    obtain ⟨c, hc, rfl⟩ := hb.int_of_not_less ht hless
    exact ⟨t, c, rfl, rfl, by omega⟩

/-- The run of a known usage: the size of the mode, the cap, and the larger of it and the pool. -/
structure Sized (args : Args) (mode : String) (plan : Plan) (target : Perl.Num) (m : Nat) : Prop
  where
  sized : args.modeTarget mode (.int args.current) = .ok target
  capped : cappedTarget args mode ((number args.fixedGib).times gib) target = .ok (.int m)
  current : number args.currentPoolBytes = .int args.current
  target : plan.targetBytes = .int (max m args.current)
  within : max m args.current ≤ signedLimit
  growth : plan.growthBytes = (max m args.current : Nat) - (args.current : Int)

theorem knownUsagePlan_sized {mode : String} {known : Bool}
    (h : knownUsagePlan args mode known = .ok plan) : ∃ target m,
        Sized args mode plan target m := by
  have hc := spells_current args
  obtain ⟨target, hsized, h⟩ := bind_eq_ok.mp h
  obtain ⟨capped, hcapped, h⟩ := bind_eq_ok.mp h
  obtain ⟨_, hlimit, h⟩ := bind_eq_ok.mp h
  have hwide : capped.Wide := wide_cappedTarget (wide_modeTarget hsized) hcapped
  have hgt := dieIf_eq_ok.mp hlimit
  have hfinal : (if capped.less (number args.currentPoolBytes) then number args.currentPoolBytes
      else capped).Wide := by
    split_ifs
    · exact hc.wide
    · exact hwide
  obtain ⟨t, ht, hint⟩ := hfinal.eq_int (by decide) hgt
  obtain ⟨m, c, rfl, hcurrent, rfl⟩ := clamped_eq_int hwide hc.wide ht hint
  rw [hcurrent] at hc
  obtain rfl := hc.eq_of_int
  obtain rfl := pure_eq_ok.mp h
  refine ⟨target, m, ?_⟩
  rw [hcurrent] at hsized
  exact ⟨hsized, hcapped, hcurrent, hint, ht, by rw [hint, hcurrent]; rfl⟩

/-- And back: a size within the limit is a plan. -/
theorem knownUsagePlan_of_sized {mode : String} {known : Bool} {target : Perl.Num} {m c : Nat}
    (hcurrent : number args.currentPoolBytes = .int c)
    (hsized : args.modeTarget mode (.int c) = .ok target)
    (hcapped : cappedTarget args mode ((number args.fixedGib).times gib) target = .ok (.int m))
    (hle : max m c ≤ signedLimit) :
    ∃ plan, knownUsagePlan args mode known = .ok plan ∧
      plan.growthBytes = (max m c : Nat) - (c : Int) := by
  have hclamp : (if (Perl.Num.int m).less (number args.currentPoolBytes) then
      number args.currentPoolBytes else .int m) = .int (max m c) := by
    rw [hcurrent]
    simp only [Perl.Num.less, decide_eq_true_eq]
    split_ifs
    · rw [max_eq_right (by omega)]
    · rw [max_eq_left (by omega)]
  have hlimit : (Perl.Num.int (max m c)).gt signedLimit = false := by
    simpa [Perl.Num.gt] using hle
  rw [← hcurrent] at hsized
  refine ⟨_, bind_eq_ok.mpr ⟨target, hsized, bind_eq_ok.mpr ⟨.int m, hcapped,
    bind_eq_ok.mpr ⟨(), dieIf_eq_ok.mpr ?_, rfl⟩⟩⟩, ?_⟩
  · rw [hclamp, hlimit]
  · simp only [hclamp]
    rw [hcurrent, Perl.Num.value, Perl.Num.value]

end

end SharedLvmThin.ThinSafety
