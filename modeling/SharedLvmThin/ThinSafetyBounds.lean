import SharedLvmThin.ThinSafety

/-!
# What the capacity floor reaches

The floor is computed from `int($used / $percent)` and `$used % $percent`. Together these are a
byte count again, and the floor is the exact one for that count: the count itself up to `2^53`
and wherever the percentage divides it, some other count where the quotient is rounded.
-/

namespace SharedLvmThin.ThinSafety
open Perl

/-- The byte count that quotient and remainder add up to. -/
def recomposed (used percent : Nat) : Nat := wholePart used percent * percent + used % percent

/-- The size that the code computes for a byte count. -/
def floorFor (used percent : Nat) : Nat := recomposed used percent * 100 ⌈/⌉ percent

section
variable {used percent : Nat}

theorem recomposed_of_le (hp : 0 < percent) (hp94 : percent ≤ 94) (h : used ≤ 2 ^ 53) :
    recomposed used percent = used := by
  rw [recomposed, wholePart_of_le hp (by omega) h, Nat.div_add_mod']

theorem recomposed_of_dvd (hp : 0 < percent) (hp94 : percent ≤ 94) (h : percent ∣ used) :
    recomposed used percent = used := by
  rw [recomposed, wholePart_of_dvd hp (by omega) h, Nat.div_add_mod']

theorem mul_ceilDiv_iff {n count : Nat} (hp : 0 < percent) (hp94 : percent ≤ 94) :
    n * 100 ≤ percent * (count * 100 ⌈/⌉ percent) ↔ n ≤ count := by
  have hle : count * 100 ≤ percent * (count * 100 ⌈/⌉ percent) :=
    (ceilDiv_le_iff_le_mul hp).mp le_rfl
  have hlt : percent * (count * 100 ⌈/⌉ percent) < count * 100 + percent := by
    rw [Nat.ceilDiv_eq_add_pred_div]
    have := Nat.mul_div_le (count * 100 + percent - 1) percent
    omega
  omega

/-- A pool of the computed size holds a byte count exactly when the recomposed count reaches it. -/
theorem mul_floorFor_iff {n : Nat} (hp : 0 < percent) (hp94 : percent ≤ 94) :
    n * 100 ≤ percent * floorFor used percent ↔ n ≤ recomposed used percent :=
  mul_ceilDiv_iff hp hp94

theorem ceilDiv_le_iff_le {a b : Nat} (hp : 0 < percent) (hp94 : percent ≤ 94) :
    a * 100 ⌈/⌉ percent ≤ b * 100 ⌈/⌉ percent ↔ a ≤ b := by
  rw [ceilDiv_le_iff_le_mul hp, mul_ceilDiv_iff hp hp94]

theorem isLeast_ceilDiv (hp : 0 < percent) (n : Nat) :
    IsLeast {size | n * 100 ≤ percent * size} (n * 100 ⌈/⌉ percent) :=
  ⟨(ceilDiv_le_iff_le_mul hp).mp le_rfl, fun _ h => (ceilDiv_le_iff_le_mul hp).mpr h⟩

/-- The computed size is the least one exactly when the count is recomposed. -/
theorem isLeast_floorFor_iff (hp : 0 < percent) (hp94 : percent ≤ 94) :
    IsLeast {size | used * 100 ≤ percent * size} (floorFor used percent) ↔
      recomposed used percent = used := by
  constructor
  · intro h
    have heq : floorFor used percent = used * 100 ⌈/⌉ percent := h.unique (isLeast_ceilDiv hp used)
    rw [floorFor] at heq
    exact le_antisymm ((ceilDiv_le_iff_le hp hp94).mp heq.le)
      ((ceilDiv_le_iff_le hp hp94).mp heq.ge)
  · intro h
    rw [floorFor, h]
    exact isLeast_ceilDiv hp used

theorem floorFor_eq (hp : 0 < percent) : floorFor used percent =
    wholePart used percent * 100 + (used % percent * 100 + percent - 1) / percent := by
  have hsplit : recomposed used percent * 100 + percent - 1 =
      used % percent * 100 + percent - 1 + percent * (wholePart used percent * 100) := by
    rw [recomposed]
    have : (wholePart used percent * percent + used % percent) * 100 =
        used % percent * 100 + percent * (wholePart used percent * 100) := by ring
    omega
  rw [floorFor, Nat.ceilDiv_eq_add_pred_div, hsplit, Nat.add_mul_div_left _ _ hp, Nat.add_comm]

/-- A count whose computed size is within the limit lies well below `2^63` itself. -/
theorem lt_of_floorFor_le (h : floorFor used 94 ≤ signedLimit) : used < 8800000000000000000 := by
  have hwhole := @le_wholePart used 94 (by decide)
  rw [floorFor_eq (by decide), signedLimit] at h
  omega

end

/-! ## The function -/

section
variable {used percent : Nat} {s : String} {maximumDataPercent : Option String}

theorem splitCeiling_int (hp : 0 < percent) (hp94 : percent ≤ 94) :
    splitCeiling (.int used) percent = some (((whole (wholePart used percent)).times 100).add
      (.int ((used % percent * 100 + percent - 1) / percent))) := by
  have hmod := Nat.mod_lt used hp
  have hsmall : used % percent * 100 + percent - 1 ≤ 2 ^ 53 := by omega
  simp only [splitCeiling, Perl.Num.remainder,
    intDiv_of_le hp (show percent < 2 ^ 53 by omega) hsmall]
  rfl

theorem splitCeiling_of_le (hp : 0 < percent) (hp94 : percent ≤ 94)
    (h : floorFor used percent < 2 ^ 64) :
    splitCeiling (.int used) percent = some (.int (floorFor used percent)) := by
  have heq := @floorFor_eq used percent hp
  rw [splitCeiling_int hp hp94, Option.some.injEq, add_eq_int]
  generalize (used % percent * 100 + percent - 1) / percent = rest at heq
  have hwhole : whole (wholePart used percent) = .int (wholePart used percent) :=
    if_pos (by omega)
  refine ⟨wholePart used percent * 100, rest, ?_, rfl, heq.symm, h⟩
  rw [hwhole]
  exact times_eq_int.mpr ⟨_, rfl, rfl, by omega⟩

/-- A sum that passes the bound was made of integer scalars. -/
theorem splitCeiling_within {a target : Perl.Num} {r : Nat} (hp : 0 < percent) (hp94 : percent ≤ 94)
    (hrem : a.remainder percent = some r) (hr : r < percent)
    (hsplit : splitCeiling a percent = some target) (hgt : target.gt signedLimit = false) :
    ∃ w, a.intDiv percent = .int w ∧ target = .int (w * 100 + (r * 100 + percent - 1) / percent) ∧
      w * 100 ≤ signedLimit := by
  have hrest : (r * 100 + percent - 1) / percent ≤ 100 := by
    rw [Nat.div_le_iff_le_mul_add_pred hp]
    omega
  simp only [splitCeiling, hrem, Option.some.injEq, intDiv_of_le hp (show percent < 2 ^ 53 by omega)
    (show r * 100 + percent - 1 ≤ 2 ^ 53 by omega)] at hsplit
  have hwide : target.Wide := by
    rw [← hsplit]
    exact wide_add (wide_times (by decide) (wide_intDiv a percent)) (.int (by omega))
  obtain ⟨t, ht, rfl⟩ := hwide.eq_int (by decide) hgt
  obtain ⟨_, _, htimes, hlast, rfl, -⟩ := add_eq_int.mp hsplit
  obtain ⟨w, hw, rfl, -⟩ := times_eq_int.mp htimes
  obtain rfl := Perl.Num.int.inj hlast
  exact ⟨w, hw, rfl, le_trans (Nat.le_add_right _ _) ht⟩

theorem whole_eq_int {n w : Nat} (h : whole n = .int w) : n = w := by
  rw [whole] at h
  split_ifs at h
  exact Perl.Num.int.inj h

/-- A computed size that passes the bound is the exact floor of the recomposed count. -/
theorem floorFor_of_splitCeiling {target : Perl.Num} (hp : 0 < percent) (hp94 : percent ≤ 94)
    (hsplit : splitCeiling (.int used) percent = some target)
    (hgt : target.gt signedLimit = false) : target = .int (floorFor used percent) := by
  obtain ⟨w, hw, rfl, -⟩ := splitCeiling_within hp hp94 rfl (Nat.mod_lt used hp) hsplit hgt
  obtain rfl := whole_eq_int hw
  rw [floorFor_eq hp]

/-- Nothing at or above `2^64` passes the bound but NaN. -/
theorem splitCeiling_large {a target : Perl.Num} (hp : 0 < percent) (hp94 : percent ≤ 94)
    (hwide : a.Wide) (hlarge : ∀ n, a ≠ .int n) (hsplit : splitCeiling a percent = some target) :
    target.gt signedLimit = true := by
  cases a with
  | int n => exact absurd rfl (hlarge n)
  | inf => exact nomatch hsplit
  | flt n =>
    by_contra hgt
    rw [Bool.not_eq_true] at hgt
    obtain ⟨w, hw, -, hle⟩ := splitCeiling_within hp hp94 rfl (Nat.mod_lt n hp) hsplit hgt
    obtain rfl := whole_eq_int hw
    have hquotient := le_doubleQuotient n percent
    have hmono : n / 94 ≤ n / percent := Nat.div_le_div_left hp94 hp
    rw [wide_flt] at hwide
    rw [signedLimit] at hle
    omega

theorem minimum_eq_ok {result : Option Perl.Num} :
    minimumPoolBytesForUsed (some s) maximumDataPercent = .ok result ↔
      isDigits s = true ∧ notPositive (maximumDataPercent.getD "94") = false ∧
        (numify (maximumDataPercent.getD "94")).gt 94 = false ∧
          splitCeiling (numify s) (numify (maximumDataPercent.getD "94")).value = result ∧
            result.any (·.gt signedLimit) = false := by
  simp only [minimumPoolBytesForUsed, Option.any_some, Option.getD_some, bind_eq_ok, dieIf_eq_ok,
    pure_eq_ok, exists_const, Bool.not_eq_false', Bool.or_eq_false_iff]
  constructor
  · intro h
    obtain ⟨hdigits, ⟨hpos, hgt⟩, hlimit, rfl⟩ := h
    exact ⟨hdigits, hpos, hgt, rfl, hlimit⟩
  · intro h
    obtain ⟨hdigits, hpos, hgt, rfl, hlimit⟩ := h
    exact ⟨hdigits, ⟨hpos, hgt⟩, hlimit, rfl⟩

/-- The percentage of a call that passes its checks. -/
theorem percent_bounds {value : String} (hpos : notPositive value = false)
    (hgt : (numify value).gt 94 = false) :
    (numify value).value = integer value ∧ 0 < integer value ∧ integer value ≤ 94 := by
  obtain ⟨n, hn, hnum⟩ := numify_of_not_gt (by decide) hgt
  obtain ⟨rfl, -⟩ := numify_eq_int.mp hnum
  simp only [notPositive, hnum, Perl.Num.lt, Bool.or_eq_false_iff, decide_eq_false_iff_not] at hpos
  exact ⟨by rw [hnum, Perl.Num.value], by omega, hn⟩

/-- What the function returns for an integer: the floor of the recomposed count, or NaN. -/
theorem minimum_spec {result : Option Perl.Num}
    (h : minimumPoolBytesForUsed (some s) maximumDataPercent = .ok result) :
    0 < integer (maximumDataPercent.getD "94") ∧ integer (maximumDataPercent.getD "94") ≤ 94 ∧
      (result = some (.int (floorFor (integer s) (integer (maximumDataPercent.getD "94")))) ∧
          integer s < 2 ^ 64 ∧
            floorFor (integer s) (integer (maximumDataPercent.getD "94")) ≤ signedLimit ∨
        result = none ∧ 2 ^ 64 ≤ integer s) := by
  obtain ⟨-, hpos, hgt, hsplit, hlimit⟩ := minimum_eq_ok.mp h
  obtain ⟨hvalue, hp, hp94⟩ := percent_bounds hpos hgt
  rw [hvalue] at hsplit
  refine ⟨hp, hp94, ?_⟩
  cases result with
  | none =>
    right
    refine ⟨rfl, ?_⟩
    by_contra hlt
    rw [numify_eq, if_pos (by omega), splitCeiling_int hp hp94] at hsplit
    cases hsplit
  | some target =>
    left
    rw [Option.any_some] at hlimit
    by_cases hlt : integer s < 2 ^ 64
    · rw [numify_eq, if_pos hlt] at hsplit
      obtain rfl := floorFor_of_splitCeiling hp hp94 hsplit hlimit
      exact ⟨rfl, hlt, by simpa [Perl.Num.gt] using hlimit⟩
    · have hlarge : ∀ n, numify s ≠ .int n := by
        intro n hn
        obtain ⟨rfl, hn⟩ := numify_eq_int.mp hn
        exact hlt hn
      rw [splitCeiling_large hp hp94 (wide_numify s) hlarge hsplit] at hlimit
      cases hlimit

/-- The function returns the least sufficient size exactly when the byte count is an unsigned
64-bit integer that quotient and remainder give back. -/
theorem minimum_least_iff {result : Option Perl.Num}
    (h : minimumPoolBytesForUsed (some s) maximumDataPercent = .ok result) :
    (∃ target, result = some (.int target) ∧
      IsLeast {size | integer s * 100 ≤ integer (maximumDataPercent.getD "94") * size} target) ↔
      integer s < 2 ^ 64 ∧
        recomposed (integer s) (integer (maximumDataPercent.getD "94")) = integer s := by
  obtain ⟨hp, hp94, ⟨rfl, hlt, -⟩ | ⟨rfl, hge⟩⟩ := minimum_spec h
  · rw [← isLeast_floorFor_iff hp hp94]
    constructor
    · intro hleast
      obtain ⟨target, htarget, hleast⟩ := hleast
      rw [Perl.Num.int.inj (Option.some.inj htarget)]
      exact ⟨hlt, hleast⟩
    · intro hleast
      exact ⟨_, rfl, hleast.2⟩
  · constructor
    · intro hleast
      obtain ⟨target, htarget, -⟩ := hleast
      exact nomatch htarget
    · intro hleast
      omega

/-- With the default ceiling, on a number that the evaluator has computed. -/
theorem minimum_text_spec {a : Perl.Num} {result : Option Perl.Num} (ha : a.Wide)
    (h : minimumPoolBytesForUsed (some a.text) none = .ok result) :
    ∃ n, a = .int n ∧ result = some (.int (floorFor n 94)) ∧ floorFor n 94 ≤ signedLimit := by
  obtain ⟨hdigits, -⟩ := minimum_eq_ok.mp h
  cases a with
  | int n =>
    have hn : n < 2 ^ 64 := by
      cases ha
      assumption
    have hdefault : integer ((none : Option String).getD "94") = 94 := by decide
    obtain ⟨-, -, hspec⟩ := minimum_spec h
    rw [hdefault, Perl.Num.text, integer_repr] at hspec
    rcases hspec with ⟨hresult, -, hle⟩ | ⟨-, hge⟩
    · exact ⟨n, rfl, hresult, hle⟩
    · omega
  | flt n =>
    rw [Perl.Num.text, scientific_not_isDigits] at hdigits
    cases hdigits
  | inf => exact absurd hdigits (by decide)

theorem minimum_text_of_le {n : Nat} (hn : n < 2 ^ 64) (h : floorFor n 94 ≤ signedLimit) :
    minimumPoolBytesForUsed (some (Perl.Num.int n).text) none =
      .ok (some (.int (floorFor n 94))) := by
  have hlimit : (Perl.Num.int (floorFor n 94)).gt signedLimit = false := by
    simpa [Perl.Num.gt] using h
  refine minimum_eq_ok.mpr ⟨isDigits_repr n, by decide, by decide, ?_, ?_⟩
  · rw [Perl.Num.text, numify_repr hn]
    exact splitCeiling_of_le (by decide) (by decide) (lt_of_le_of_lt h (by decide))
  · rw [Option.any_some, hlimit]

end

end SharedLvmThin.ThinSafety
