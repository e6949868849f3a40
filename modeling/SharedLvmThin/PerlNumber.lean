import Mathlib.Data.Nat.Log
import Mathlib.Tactic
import SharedLvmThin.PerlText

/-!
# Perl arithmetic on non-negative integers

Sums and products below `2^64` are exact, larger ones are doubles. A quotient is a double as
well, with one exception: an integer above `2^53` that the divisor divides. So `int($a / $b)`
is the true quotient up to `2^53` and may lie on either side of it above.
-/

namespace Perl

/-- The double nearest to an integer. -/
def double (n : Nat) : Nat :=
  let unit := 2 ^ (Nat.log2 n - 52)
  roundHalfEven n unit * unit

/-- The integer part of the double nearest to `n / k`, for a double `n` and a positive `k` of at
most 53 bits. -/
def doubleQuotient (n k : Nat) : Nat :=
  let digits := Nat.log2 (n / k)
  let unit := 2 ^ (digits - 52)
  let parts := 2 ^ (52 - digits)
  roundHalfEven (n * parts) (k * unit) * unit / parts

/-- `int($n / $k)` -/
def wholePart (n k : Nat) : Nat :=
  if 2 ^ 53 < n ∧ n % k = 0 then n / k else doubleQuotient (double n) k

/-- A whole double, an integer scalar again when it fits. -/
def whole (n : Nat) : Num := if n < 2 ^ 64 then .int n else .flt n

def Num.add : Num → Num → Num
  | .int m, .int n => if m + n < 2 ^ 64 then .int (m + n) else toDouble (double m + double n)
  | .int m, .flt n => toDouble (double m + n)
  | .flt m, .int n => toDouble (m + double n)
  | .flt m, .flt n => toDouble (m + n)
  | .int _, .inf => .inf
  | .flt _, .inf => .inf
  | .inf, _ => .inf

/-- `$a * $k` for a positive `k` of at most 53 bits. -/
def Num.times : Num → Nat → Num
  | .int n, k => if n * k < 2 ^ 64 then .int (n * k) else toDouble (double n * k)
  | .flt n, k => toDouble (n * k)
  | .inf, _ => .inf

/-- `int($a / $k)` -/
def Num.intDiv : Num → Nat → Num
  | .int n, k => whole (wholePart n k)
  | .flt n, k => whole (doubleQuotient n k)
  | .inf, _ => .inf

/-- `$a % $k`; the remainder of infinity is NaN. -/
def Num.remainder : Num → Nat → Option Nat
  | .int n, k => some (n % k)
  | .flt n, k => some (n % k)
  | .inf, _ => none

/-- `$a < $b` -/
def Num.less : Num → Num → Bool
  | .int m, .int n => m < n
  | .int m, .flt n => double m < n
  | .flt m, .int n => m < double n
  | .flt m, .flt n => m < n
  | .int _, .inf => true
  | .flt _, .inf => true
  | .inf, _ => false

/-- The integer that a scalar of digits spells. -/
def integer (s : String) : Nat := Nat.ofDigitChars 10 (s.toList.takeWhile Char.isDigit) 0

theorem numify_eq (s : String) :
    numify s = if integer s < 2 ^ 64 then .int (integer s) else toDouble (integer s) :=
  rfl

theorem integer_repr (n : Nat) : integer n.repr = n := by
  rw [integer, takeWhile_isDigit (repr_all_isDigit n), Nat.toList_repr,
    Nat.ofDigitChars_ten_toDigits]

/-! ## Rounding -/

section
variable {n d : Nat}

theorem div_le_roundHalfEven (n d : Nat) : n / d ≤ roundHalfEven n d := by
  simp only [roundHalfEven]
  split_ifs <;> omega

theorem roundHalfEven_of_mod_eq_zero (hd : 0 < d) (h : n % d = 0) :
    roundHalfEven n d = n / d := by
  simp only [roundHalfEven, h]
  rw [if_neg (by omega)]

@[simp] theorem roundHalfEven_one (n : Nat) : roundHalfEven n 1 = n := by
  rw [roundHalfEven_of_mod_eq_zero one_pos (Nat.mod_one n), Nat.div_one]

/-- The rounded multiple lies within half a unit. -/
theorem roundHalfEven_bounds (hd : 0 < d) :
    2 * n ≤ 2 * (roundHalfEven n d * d) + d ∧ 2 * (roundHalfEven n d * d) ≤ 2 * n + d := by
  have hdiv : n / d * d + n % d = n := Nat.div_add_mod' n d
  have hmod : n % d < d := Nat.mod_lt n hd
  simp only [roundHalfEven]
  split_ifs with h
  · rw [Nat.add_mul, one_mul]
    omega
  · omega

end

theorem double_of_le {n : Nat} (h : n ≤ 2 ^ 53) : double n = n := by
  rcases Nat.lt_or_ge n (2 ^ 53) with hlt | hge
  · have hunit : Nat.log2 n - 52 = 0 := by
      rcases Nat.eq_zero_or_pos n with rfl | hpos
      · decide
      · have := (Nat.log2_lt (by omega)).mpr hlt
        omega
    simp only [double, hunit, pow_zero, roundHalfEven_one, mul_one]
  · obtain rfl : n = 2 ^ 53 := by omega
    decide

/-- A double differs from its integer by less than a part in 64, and far less above `2^53`. -/
theorem double_bounds (n : Nat) : 63 * n ≤ 64 * double n ∧ 64 * double n ≤ 65 * n := by
  rcases Nat.lt_or_ge n (2 ^ 53) with hlt | hge
  · rw [double_of_le hlt.le]
    omega
  · have hn : n ≠ 0 := by omega
    have hlog : 53 ≤ Nat.log2 n := (Nat.le_log2 hn).mpr hge
    have hpow : 2 ^ 52 * 2 ^ (Nat.log2 n - 52) ≤ n := by
      rw [← pow_add, Nat.add_sub_cancel' (by omega)]
      exact Nat.log2_self_le hn
    have hpos : 0 < 2 ^ (Nat.log2 n - 52) := by positivity
    obtain ⟨hlow, hhigh⟩ := roundHalfEven_bounds (n := n) hpos
    simp only [double]
    omega

/-- When the halves of a part count for less than one divisor, rounding stays below the next
whole number. -/
theorem roundHalfEven_mul_div {n k parts : Nat} (hk : 0 < k) (hparts : 0 < parts)
    (h : n % k = 0 ∨ k < 2 * parts) : roundHalfEven (n * parts) k / parts = n / k := by
  rcases h with h | h
  · have hdvd : k ∣ n := Nat.dvd_of_mod_eq_zero h
    rw [roundHalfEven_of_mod_eq_zero hk (Nat.mod_eq_zero_of_dvd (hdvd.mul_right parts)),
      Nat.mul_comm n parts, Nat.mul_div_assoc _ hdvd, Nat.mul_div_cancel_left _ hparts]
  · have hdiv : n / k * k + n % k = n := Nat.div_add_mod' n k
    have hmod : n % k < k := Nat.mod_lt n hk
    have hlow : n / k * parts ≤ roundHalfEven (n * parts) k := by
      refine le_trans ?_ (div_le_roundHalfEven _ _)
      rw [Nat.le_div_iff_mul_le hk]
      calc n / k * parts * k = n / k * k * parts := by ring
        _ ≤ n * parts := Nat.mul_le_mul_right _ (Nat.div_mul_le_self n k)
    have hhigh : roundHalfEven (n * parts) k < (n / k + 1) * parts := by
      have hround := (roundHalfEven_bounds (n := n * parts) hk).2
      have hn : n + 1 ≤ (n / k + 1) * k := by
        rw [Nat.add_mul, one_mul]
        omega
      have hscaled : (n + 1) * parts ≤ (n / k + 1) * k * parts := Nat.mul_le_mul_right _ hn
      have hlt : roundHalfEven (n * parts) k * k < (n / k + 1) * parts * k := by
        rw [Nat.add_mul, one_mul] at hscaled
        have hcomm : (n / k + 1) * parts * k = (n / k + 1) * k * parts := by ring
        omega
      exact Nat.lt_of_mul_lt_mul_right hlt
    exact Nat.div_eq_of_lt_le hlow hhigh

/-- Up to `2^53` a quotient never rounds past a whole number. -/
theorem doubleQuotient_of_le {n k : Nat} (hk : 0 < k) (hk53 : k < 2 ^ 53) (h : n ≤ 2 ^ 53) :
    doubleQuotient n k = n / k := by
  have hq : n / k ≤ n := Nat.div_le_self n k
  rcases Nat.lt_or_ge (n / k) (2 ^ 53) with hlt | hge
  · have hlog : Nat.log2 (n / k) ≤ 52 := by
      rcases Nat.eq_zero_or_pos (n / k) with hzero | hpos
      · simp [hzero]
      · have := (Nat.log2_lt (by omega)).mpr hlt
        omega
    have hunit : Nat.log2 (n / k) - 52 = 0 := by omega
    simp only [doubleQuotient, hunit, pow_zero, mul_one]
    refine roundHalfEven_mul_div hk (by positivity) ?_
    have hparts : 2 ^ Nat.log2 (n / k) * (2 * 2 ^ (52 - Nat.log2 (n / k))) = 2 ^ 53 := by
      rw [← pow_succ', ← pow_add]
      congr 1
      omega
    rcases Nat.eq_zero_or_pos (n / k) with hzero | hpos
    · right
      rw [hzero, Nat.log2_zero]
      omega
    · by_cases hmod : n % k = 0
      · exact Or.inl hmod
      · right
        have hpow : 2 ^ Nat.log2 (n / k) ≤ n / k := Nat.log2_self_le (by omega)
        have hbelow : 2 ^ Nat.log2 (n / k) * k < 2 ^ 53 := by
          have hdiv : n / k * k + n % k = n := Nat.div_add_mod' n k
          have hle : 2 ^ Nat.log2 (n / k) * k ≤ n / k * k := Nat.mul_le_mul_right _ hpow
          omega
        rw [← hparts] at hbelow
        exact Nat.lt_of_mul_lt_mul_left hbelow
  · obtain rfl : n = 2 ^ 53 := by omega
    have hone : k = 1 := by
      have hmul : 2 ^ 53 * k ≤ 2 ^ 53 := (Nat.le_div_iff_mul_le hk).mp hge
      omega
    rw [hone]
    decide

theorem le_doubleQuotient (n k : Nat) : 63 * (n / k) ≤ 64 * doubleQuotient n k := by
  rcases Nat.lt_or_ge (Nat.log2 (n / k)) 53 with hlt | hge
  · have hunit : Nat.log2 (n / k) - 52 = 0 := by omega
    have hpos : 0 < 2 ^ (52 - Nat.log2 (n / k)) := by positivity
    have hround := Nat.div_le_div_right (c := 2 ^ (52 - Nat.log2 (n / k)))
      (div_le_roundHalfEven (n * 2 ^ (52 - Nat.log2 (n / k))) k)
    rw [Nat.div_div_eq_div_mul, Nat.mul_div_mul_right _ _ hpos] at hround
    simp only [doubleQuotient, hunit, pow_zero, mul_one]
    omega
  · have hparts : 52 - Nat.log2 (n / k) = 0 := by omega
    have hne : n / k ≠ 0 := by
      intro hzero
      simp [hzero] at hge
    have hpow : 2 ^ 52 * 2 ^ (Nat.log2 (n / k) - 52) ≤ n / k := by
      rw [← pow_add, Nat.add_sub_cancel' (by omega)]
      exact Nat.log2_self_le hne
    have hround := Nat.mul_le_mul_right (2 ^ (Nat.log2 (n / k) - 52))
      (div_le_roundHalfEven n (k * 2 ^ (Nat.log2 (n / k) - 52)))
    rw [← Nat.div_div_eq_div_mul] at hround
    have hpos : 0 < 2 ^ (Nat.log2 (n / k) - 52) := by positivity
    have hdiv := Nat.div_add_mod' (n / k) (2 ^ (Nat.log2 (n / k) - 52))
    have hmod := Nat.mod_lt (n / k) hpos
    simp only [doubleQuotient, hparts, pow_zero, mul_one, Nat.div_one]
    omega

/-- The whole part is never far below the quotient. -/
theorem le_wholePart {n k : Nat} (hk : 0 < k) : 62 * n ≤ 64 * ((wholePart n k + 1) * k) := by
  rw [wholePart]
  split_ifs
  · have hdiv : n < (n / k + 1) * k := Nat.lt_mul_of_div_lt (Nat.lt_succ_self _) hk
    omega
  · have hdiv : double n < (double n / k + 1) * k := Nat.lt_mul_of_div_lt (Nat.lt_succ_self _) hk
    have hquotient : 63 * (double n / k + 1) ≤ 64 * (doubleQuotient (double n) k + 1) := by
      have := le_doubleQuotient (double n) k
      omega
    have hscaled := Nat.mul_le_mul_right k hquotient
    have hdouble := (double_bounds n).1
    rw [Nat.mul_assoc, Nat.mul_assoc] at hscaled
    omega

theorem wholePart_of_le {n k : Nat} (hk : 0 < k) (hk53 : k < 2 ^ 53) (h : n ≤ 2 ^ 53) :
    wholePart n k = n / k := by
  rw [wholePart, if_neg (by omega), double_of_le h, doubleQuotient_of_le hk hk53 h]

theorem wholePart_of_dvd {n k : Nat} (hk : 0 < k) (hk53 : k < 2 ^ 53) (h : k ∣ n) :
    wholePart n k = n / k := by
  by_cases hle : n ≤ 2 ^ 53
  · exact wholePart_of_le hk hk53 hle
  · rw [wholePart, if_pos ⟨by omega, Nat.mod_eq_zero_of_dvd h⟩]

theorem intDiv_of_le {n k : Nat} (hk : 0 < k) (hk53 : k < 2 ^ 53) (h : n ≤ 2 ^ 53) :
    (Num.int n).intDiv k = .int (n / k) := by
  have hlt : n / k < 2 ^ 64 := by
    have := Nat.div_le_self n k
    omega
  rw [Num.intDiv, wholePart_of_le hk hk53 h, whole, if_pos hlt]

/-! ## Exact results -/

theorem toDouble_eq_int {n m : Nat} : toDouble n = .int m ↔ False := by
  simp only [toDouble]
  split_ifs <;> simp

theorem numify_eq_int {s : String} {n : Nat} :
    numify s = .int n ↔ integer s = n ∧ n < 2 ^ 64 := by
  rw [numify_eq]
  split_ifs with h
  · simp only [Num.int.injEq]
    constructor
    · intro he
      exact ⟨he, he ▸ h⟩
    · exact fun he => he.1
  · constructor
    · intro he
      exact (toDouble_eq_int.mp he).elim
    · intro he
      exact absurd (he.1 ▸ he.2) h

/-- A sum is an integer scalar only as the exact sum of two of them. -/
theorem add_eq_int {a b : Num} {t : Nat} : a.add b = .int t ↔
    ∃ m n, a = .int m ∧ b = .int n ∧ m + n = t ∧ t < 2 ^ 64 := by
  constructor
  · intro h
    cases a <;> cases b <;> simp only [Num.add, toDouble_eq_int, -reduceCtorEq] at h
    case int.int m n =>
      by_cases hlt : m + n < 2 ^ 64
      · rw [if_pos hlt] at h
        obtain rfl := Num.int.inj h
        exact ⟨m, n, rfl, rfl, rfl, hlt⟩
      · rw [if_neg hlt] at h
        exact (toDouble_eq_int.mp h).elim
    all_goals exact nomatch h
  · intro h
    obtain ⟨m, n, rfl, rfl, rfl, hlt⟩ := h
    rw [Num.add, if_pos hlt]

theorem times_eq_int {a : Num} {k t : Nat} : a.times k = .int t ↔
    ∃ n, a = .int n ∧ n * k = t ∧ t < 2 ^ 64 := by
  constructor
  · intro h
    cases a <;> simp only [Num.times, toDouble_eq_int, -reduceCtorEq] at h
    case int n =>
      by_cases hlt : n * k < 2 ^ 64
      · rw [if_pos hlt] at h
        obtain rfl := Num.int.inj h
        exact ⟨n, rfl, rfl, hlt⟩
      · rw [if_neg hlt] at h
        exact (toDouble_eq_int.mp h).elim
    case inf => exact nomatch h
  · intro h
    obtain ⟨n, rfl, rfl, hlt⟩ := h
    rw [Num.times, if_pos hlt]

/-- What every scalar of the arithmetic is: a double only when it is large. -/
inductive Num.Wide : Num → Prop
  | int {n : Nat} (h : n < 2 ^ 64) : Wide (.int n)
  | flt {n : Nat} (h : 2 ^ 63 ≤ n) : Wide (.flt n)
  | inf : Wide .inf

theorem wide_flt {n : Nat} : (Num.flt n).Wide ↔ 2 ^ 63 ≤ n :=
  ⟨fun h => by cases h; assumption, Num.Wide.flt⟩

theorem wide_toDouble {n : Nat} (h : 2 ^ 63 ≤ n) : (toDouble n).Wide := by
  cases hd : toDouble n with
  | int m => exact (toDouble_eq_int.mp hd).elim
  | flt m =>
    rw [wide_flt]
    exact toDouble_ge (by decide) h hd
  | inf => exact .inf

theorem wide_numify (s : String) : (numify s).Wide := by
  rw [numify_eq]
  split_ifs with h
  · exact .int h
  · exact wide_toDouble (by omega)

theorem wide_whole (n : Nat) : (whole n).Wide := by
  rw [whole]
  split_ifs with h
  · exact .int h
  · rw [wide_flt]
    omega

theorem wide_intDiv (a : Num) (k : Nat) : (a.intDiv k).Wide := by
  cases a with
  | int n => exact wide_whole _
  | flt n => exact wide_whole _
  | inf => exact .inf

theorem wide_add {a b : Num} (ha : a.Wide) (hb : b.Wide) : (a.add b).Wide := by
  cases a <;> cases b <;> simp only [Num.add]
  case int.int m n =>
    split_ifs with h
    · exact .int h
    · have hm := (double_bounds m).1
      have hn := (double_bounds n).1
      exact wide_toDouble (by omega)
  case int.flt m n =>
    rw [wide_flt] at hb
    exact wide_toDouble (by omega)
  case flt.int m n =>
    rw [wide_flt] at ha
    exact wide_toDouble (by omega)
  case flt.flt m n =>
    rw [wide_flt] at ha
    exact wide_toDouble (by omega)
  all_goals exact .inf

theorem wide_times {a : Num} {k : Nat} (hk : 0 < k) (ha : a.Wide) : (a.times k).Wide := by
  cases a <;> simp only [Num.times]
  case int n =>
    split_ifs with h
    · exact .int h
    · have hbound := Nat.mul_le_mul_right k (double_bounds n).1
      rw [Nat.mul_assoc, Nat.mul_assoc] at hbound
      exact wide_toDouble (by omega)
  case flt n =>
    rw [wide_flt] at ha
    exact wide_toDouble (le_trans ha (Nat.le_mul_of_pos_right n hk))
  case inf => exact .inf

/-- A number below an integer scalar that is not close to `2^63` is one as well. -/
theorem Num.Wide.int_of_less {a : Num} {n : Nat} (ha : a.Wide) (hn : n ≤ 9000000000000000000)
    (h : a.less (.int n) = true) : ∃ m < n, a = .int m := by
  cases a with
  | int m => exact ⟨m, by simpa [Num.less] using h, rfl⟩
  | flt m =>
    rw [wide_flt] at ha
    have hdouble := (double_bounds n).2
    simp only [Num.less, decide_eq_true_eq] at h
    omega
  | inf => simp [Num.less] at h

theorem Num.Wide.int_of_not_less {a : Num} {n : Nat} (ha : a.Wide)
    (hn : n ≤ 9000000000000000000) (h : (Num.int n).less a = false) : ∃ m ≤ n, a = .int m := by
  cases a with
  | int m => exact ⟨m, by simpa [Num.less] using h, rfl⟩
  | flt m =>
    rw [wide_flt] at ha
    have hdouble := (double_bounds n).2
    simp only [Num.less, decide_eq_false_iff_not, not_lt] at h
    omega
  | inf => simp [Num.less] at h

/-- A number within a bound below `2^63` is an integer scalar. -/
theorem Num.Wide.eq_int {a : Num} {k : Nat} (ha : a.Wide) (hk : k < 2 ^ 63)
    (h : a.gt k = false) : ∃ n ≤ k, a = .int n := by
  cases a with
  | int n => exact ⟨n, by simpa [Num.gt] using h, rfl⟩
  | flt n =>
    rw [wide_flt] at ha
    simp only [Num.gt, decide_eq_false_iff_not, not_lt] at h
    omega
  | inf => simp [Num.gt] at h

/-! ## Scalars of any size -/

/-- The number that an integer becomes: itself, or no integer scalar from `2^64` on. -/
inductive Num.Spells (n : Nat) : Num → Prop
  | int (h : n < 2 ^ 64) : Spells n (.int n)
  | large {a : Num} (h : 2 ^ 64 ≤ n) (wide : a.Wide) (noInt : ∀ m, a ≠ .int m) : Spells n a

section
variable {a b : Num} {m n : Nat}

theorem Num.Spells.wide (h : a.Spells n) : a.Wide := by
  cases h with
  | int h => exact .int h
  | large _ wide _ => exact wide

theorem Num.Spells.eq_of_int (h : (Num.int m).Spells n) : m = n := by
  cases h with
  | int _ => rfl
  | large _ _ noInt => exact absurd rfl (noInt m)

theorem Num.Spells.eq_int (h : a.Spells n) (hn : n < 2 ^ 64) : a = .int n := by
  cases h with
  | int _ => rfl
  | large hge _ _ => omega

theorem spells_numify (s : String) : (numify s).Spells (integer s) := by
  by_cases h : integer s < 2 ^ 64
  · rw [numify_eq, if_pos h]
    exact .int h
  · refine .large (by omega) (wide_numify s) ?_
    intro m hm
    obtain ⟨rfl, hlt⟩ := numify_eq_int.mp hm
    exact h hlt

theorem Num.Spells.times {k : Nat} (hk : 0 < k) (h : a.Spells n) : (a.times k).Spells (n * k) := by
  by_cases hlt : n * k < 2 ^ 64
  · have hn : n < 2 ^ 64 := lt_of_le_of_lt (Nat.le_mul_of_pos_right n hk) hlt
    cases h with
    | int _ =>
      rw [times_eq_int.mpr ⟨n, rfl, rfl, hlt⟩]
      exact .int hlt
    | large hge _ _ => omega
  · refine .large (by omega) (wide_times hk h.wide) ?_
    intro t ht
    obtain ⟨m, rfl, rfl, hm⟩ := times_eq_int.mp ht
    rw [h.eq_of_int] at hm
    exact hlt hm

/-- The smaller of two numbers, where it is an integer scalar. -/
theorem Num.Spells.min_of_int {x : Nat} (ha : a.Spells m) (hb : b.Spells n)
    (h : (if a.less b then a else b) = .int x) : x = min m n := by
  cases ha with
  | int hm =>
    cases hb with
    | int hn =>
      simp only [Num.less, decide_eq_true_eq] at h
      split_ifs at h with hlt
      · obtain rfl := Num.int.inj h
        omega
      · obtain rfl := Num.int.inj h
        omega
    | large hn _ noInt =>
      split_ifs at h with hlt
      · obtain rfl := Num.int.inj h
        omega
      · exact absurd h (noInt x)
  | large hm _ noInt =>
    split_ifs at h with hlt
    · exact absurd h (noInt x)
    · subst h
      have hx := hb.eq_of_int
      cases hb with
      | int hn => omega
      | large _ _ noInt => exact absurd rfl (noInt x)

end

end Perl
