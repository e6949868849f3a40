import Mathlib.Algebra.Order.Floor.Div
import Mathlib.Tactic
import SharedLvmThin.PerlText

/-! The dm-clone geometry of a Thick volume. A region doubles until the regions fit their bound; the
metadata follows from the number of regions. -/

namespace SharedLvmThin.CloneGeometry
open Perl

/-! ## Rounding up -/

theorem ceilDiv_eq (a b : Nat) : a ⌈/⌉ b = (a + b - 1) / b := rfl

/-- Rounding up to a multiple gives the least multiple above. -/
theorem isLeast_multiple {unit : Nat} (hunit : 0 < unit) (n : Nat) :
    IsLeast {m | unit ∣ m ∧ n ≤ m} ((n + unit - 1) / unit * unit) := by
  rw [← ceilDiv_eq]
  refine ⟨⟨Nat.dvd_mul_left _ _, ?_⟩, ?_⟩
  · rw [Nat.mul_comm]
    exact le_smul_ceilDiv hunit
  · rintro _ ⟨⟨q, rfl⟩, hq⟩
    rw [Nat.mul_comm]
    exact Nat.mul_le_mul_left unit ((ceilDiv_le_iff_le_smul hunit).mpr hq)

/-! ## The source -/

def maxRegions : Nat := 134217728

def maxRegionSectors : Nat := 2097152

def defaultRegionSectors : Nat := 2048

def mib : Nat := 1024 * 1024

structure Geometry where
  regionSectors : Nat
  regions : Nat
  metadataBytes : Nat
deriving DecidableEq

/-- `int(($sectors + $region - 1) / $region)`. A region is a power of two, so that the quotient of
doubles has the same integer part, or is far beyond every bound. -/
def regionCount (sectors region : Nat) : Nat := (sectors + region - 1) / region

/-- The doubling loop. -/
def growRegion (sectors : Nat) (fixed : Bool) (region : Nat) : Except String Nat :=
  if _h : regionCount sectors region > maxRegions then
    if fixed then .error "persisted dm-clone geometry exceeds the supported region bound\n"
    else if region * 2 > maxRegionSectors then
      .error "clone size exceeds supported dm-clone geometry\n"
    else growRegion sectors fixed (region * 2)
  else .ok region
termination_by maxRegionSectors - region
decreasing_by
  have hpos : region ≠ 0 := by
    rintro rfl
    simp [regionCount] at _h
  omega

/-- A byte for each region and 16 MiB beside them, rounded up to 4 MiB. -/
def metadataBytes (regions : Nat) : Except String Nat := do
  let metadata := 16 * mib + regions
  let extent := 4 * mib
  let metadata := (metadata + extent - 1) / extent * extent
  dieIf (metadata > 16 * 1024 * mib)
    "calculated dm-clone metadata exceeds the supported 16 GiB limit\n"
  return metadata

/-- `clone_geometry` -/
def cloneGeometry (bytes : Nat) (persistedRegion : Option Nat) (allowGrowth : Bool) :
    Except String Geometry := do
  dieIf (bytes < 512 || bytes % 512 ≠ 0) "clone size must be a positive sector-aligned integer\n"
  let sectors := bytes / 512
  let region := persistedRegion.getD defaultRegionSectors
  dieIf (region < 8 || region > maxRegionSectors || region &&& (region - 1) ≠ 0)
    "persisted dm-clone region size is invalid\n"
  let region ← growRegion sectors (persistedRegion.isSome && !allowGrowth) region
  let regions := regionCount sectors region
  let metadata ← metadataBytes regions
  return { regionSectors := region, regions := regions, metadataBytes := metadata }

/-! ## The loop -/

/-- A region that the loop may return. -/
structure Fits (sectors : Nat) (fixed : Bool) (start region : Nat) : Prop where
  doubled : ∃ k, region = start * 2 ^ k ∧ (fixed = true → k = 0)
  bound : region ≤ maxRegionSectors
  count : sectors ⌈/⌉ region ≤ maxRegions

variable {sectors start region : Nat} {fixed : Bool}

theorem Fits.of_double (h : Fits sectors fixed (start * 2) region) (hfixed : fixed = false) :
    Fits sectors fixed start region := by
  obtain ⟨k, rfl, -⟩ := h.doubled
  refine ⟨⟨k + 1, ?_, fun ht => ?_⟩, h.bound, h.count⟩
  · rw [Nat.pow_succ', Nat.mul_assoc]
  · rw [hfixed] at ht
    cases ht

/-- A start that has too many regions is passed. -/
theorem Fits.double (h : Fits sectors fixed start region)
    (hcount : regionCount sectors start > maxRegions) :
    fixed = false ∧ Fits sectors fixed (start * 2) region := by
  obtain ⟨⟨k, rfl, hk⟩, hbound, hfits⟩ := h
  cases k with
  | zero =>
    rw [Nat.pow_zero, Nat.mul_one, ceilDiv_eq] at hfits
    exact absurd hfits (Nat.not_le.mpr hcount)
  | succ k =>
    have hfixed : fixed = false := by
      cases fixed with
      | false => rfl
      | true => cases hk rfl
    refine ⟨hfixed, ⟨k, ?_, fun ht => ?_⟩, hbound, hfits⟩
    · rw [Nat.pow_succ', Nat.mul_assoc]
    · rw [hfixed] at ht
      cases ht

theorem Fits.start_le (h : Fits sectors fixed start region) : start ≤ region := by
  obtain ⟨k, rfl, -⟩ := h.doubled
  exact Nat.le_mul_of_pos_right start (Nat.two_pow_pos k)

theorem fits_self (hstart : start ≤ maxRegionSectors)
    (hcount : ¬ regionCount sectors start > maxRegions) : Fits sectors fixed start start where
  doubled := ⟨0, (Nat.mul_one start).symm, fun _ => rfl⟩
  bound := hstart
  count := Nat.not_lt.mp hcount

/-- The loop finds the least region that fits, and refuses if there is none. -/
theorem growRegion_spec (hstart : start ≤ maxRegionSectors) :
    (∀ region, growRegion sectors fixed start = .ok region →
      IsLeast {x | Fits sectors fixed start x} region) ∧
    ((∃ x, Fits sectors fixed start x) → ∃ region, growRegion sectors fixed start = .ok region) := by
  induction start using growRegion.induct sectors fixed with
  | case1 start hcount hfixed =>
    rw [growRegion, dif_pos hcount, if_pos hfixed]
    refine ⟨fun _ h => (nomatch h), fun ⟨x, hx⟩ => ?_⟩
    have hopen := (hx.double hcount).1
    rw [hfixed] at hopen
    cases hopen
  | case2 start hcount hfixed hmax =>
    rw [growRegion, dif_pos hcount, if_neg hfixed, if_pos hmax]
    refine ⟨fun _ h => (nomatch h), fun ⟨x, hx⟩ => ?_⟩
    have hdouble := (hx.double hcount).2
    have hle := hdouble.start_le.trans hdouble.bound
    omega
  | case3 start hcount hfixed hmax ih =>
    rw [growRegion, dif_pos hcount, if_neg hfixed, if_neg hmax]
    obtain ⟨hleast, hexists⟩ := ih (Nat.not_lt.mp hmax)
    have hset : {x | Fits sectors fixed start x} = {x | Fits sectors fixed (start * 2) x} := by
      ext x
      exact ⟨fun hx => (hx.double hcount).2, fun hx => hx.of_double (Bool.not_eq_true _ ▸ hfixed)⟩
    refine ⟨fun region h => hset ▸ hleast region h, fun ⟨x, hx⟩ => hexists ⟨x, ?_⟩⟩
    exact (hx.double hcount).2
  | case4 start hcount =>
    rw [growRegion, dif_neg hcount]
    refine ⟨?_, fun _ => ⟨start, rfl⟩⟩
    rintro _ ⟨⟩
    exact ⟨fits_self hstart hcount, fun x hx => hx.start_le⟩

theorem growRegion_message {message : String} (h : growRegion sectors fixed start = .error message) :
    message = "persisted dm-clone geometry exceeds the supported region bound\n" ∨
      message = "clone size exceeds supported dm-clone geometry\n" := by
  induction start using growRegion.induct sectors fixed with
  | case1 start hcount hfixed =>
    rw [growRegion, dif_pos hcount, if_pos hfixed] at h
    exact .inl (Except.error.inj h).symm
  | case2 start hcount hfixed hmax =>
    rw [growRegion, dif_pos hcount, if_neg hfixed, if_pos hmax] at h
    exact .inr (Except.error.inj h).symm
  | case3 start hcount hfixed hmax ih =>
    rw [growRegion, dif_pos hcount, if_neg hfixed, if_neg hmax] at h
    exact ih h
  | case4 start hcount =>
    rw [growRegion, dif_neg hcount] at h
    cases h

/-! ## The geometry -/

/-- The default or persisted region. -/
def startRegion (persistedRegion : Option Nat) : Nat := persistedRegion.getD defaultRegionSectors

def ValidStart (region : Nat) : Prop :=
  region.isPowerOfTwo ∧ 8 ≤ region ∧ region ≤ maxRegionSectors

def roundedMetadata (regions : Nat) : Nat :=
  (16 * mib + regions + 4 * mib - 1) / (4 * mib) * (4 * mib)

/-- The metadata of the largest number of regions stays far below its limit. -/
theorem metadataBytes_eq {regions : Nat} (h : regions ≤ maxRegions) :
    metadataBytes regions = .ok (roundedMetadata regions) := by
  have hle : roundedMetadata regions ≤ 16 * mib + regions + 4 * mib - 1 := Nat.div_mul_le_self _ _
  have hlimit : ¬ roundedMetadata regions > 16 * 1024 * mib := by
    simp only [mib, maxRegions] at *
    omega
  unfold roundedMetadata at hlimit ⊢
  simp only [metadataBytes, bind_eq_ok, dieIf_eq_ok, exists_unit, pure_eq_ok,
    decide_eq_false_iff_not]
  exact ⟨hlimit, trivial⟩

theorem validStart_iff {region : Nat} :
    (decide (region < 8) || decide (region > maxRegionSectors) ||
      decide (region &&& (region - 1) ≠ 0)) = false ↔ ValidStart region := by
  simp only [ValidStart, Bool.or_eq_false_iff, decide_eq_false_iff_not, not_not, Nat.not_lt]
  constructor
  · rintro ⟨⟨hlow, hhigh⟩, hbits⟩
    have hne : region ≠ 0 := by omega
    exact ⟨Nat.ne_zero_and_sub_one_eq_zero_iff_isPowerOfTwo.mp ⟨hne, hbits⟩, hlow, hhigh⟩
  · rintro ⟨hpower, hlow, hhigh⟩
    exact ⟨⟨hlow, hhigh⟩, (Nat.ne_zero_and_sub_one_eq_zero_iff_isPowerOfTwo.mpr hpower).2⟩

/-- The geometry of a region. -/
def geometryOf (sectors region : Nat) : Geometry where
  regionSectors := region
  regions := sectors ⌈/⌉ region
  metadataBytes := roundedMetadata (sectors ⌈/⌉ region)

variable {bytes : Nat} {persistedRegion : Option Nat} {allowGrowth : Bool}

theorem ok_bind {α β : Type} (a : α) (f : α → Except String β) : (Except.ok a >>= f) = f a := rfl

theorem size_check (hpos : 0 < bytes) (haligned : 512 ∣ bytes) :
    (decide (bytes < 512) || decide (bytes % 512 ≠ 0)) = false := by
  simp only [Bool.or_eq_false_iff, decide_eq_false_iff_not, not_not]
  omega

theorem cloneGeometry_eq (hpos : 0 < bytes) (haligned : 512 ∣ bytes)
    (hstart : ValidStart (startRegion persistedRegion)) :
    cloneGeometry bytes persistedRegion allowGrowth =
      (growRegion (bytes / 512) (persistedRegion.isSome && !allowGrowth)
        (startRegion persistedRegion)).map (geometryOf (bytes / 512)) := by
  have hregion := validStart_iff.mpr hstart
  unfold cloneGeometry
  unfold startRegion at hstart hregion ⊢
  simp only [size_check hpos haligned, hregion]
  cases hgrow : growRegion (bytes / 512) (persistedRegion.isSome && !allowGrowth)
      (persistedRegion.getD defaultRegionSectors) with
  | error message => rfl
  | ok region =>
    have hfits := ((growRegion_spec hstart.2.2).1 region hgrow).1
    have hmetadata : metadataBytes (regionCount (bytes / 512) region) = _ :=
      metadataBytes_eq hfits.count
    rw [show dieIf false _ = Except.ok () from rfl, ok_bind,
      show dieIf false _ = Except.ok () from rfl, ok_bind, ok_bind, hmetadata, ok_bind]
    rfl

theorem cloneGeometry_refused (hpos : 0 < bytes) (haligned : 512 ∣ bytes)
    (hstart : ¬ ValidStart (startRegion persistedRegion)) :
    cloneGeometry bytes persistedRegion allowGrowth =
      .error "persisted dm-clone region size is invalid\n" := by
  have hregion := Bool.not_eq_false _ ▸ mt validStart_iff.mp hstart
  unfold cloneGeometry
  unfold startRegion at hregion
  simp only [size_check hpos haligned, hregion]
  rfl

/-- `clone_geometry` succeeds exactly if a region fits. It returns the least such region with its
number of regions and the least metadata size; its last refusal never happens. -/
theorem clone_geometry_exact (hpos : 0 < bytes) (haligned : 512 ∣ bytes) :
    ((∃ geometry, cloneGeometry bytes persistedRegion allowGrowth = .ok geometry) ↔
      ValidStart (startRegion persistedRegion) ∧
        ∃ region, Fits (bytes / 512) (persistedRegion.isSome && !allowGrowth)
          (startRegion persistedRegion) region) ∧
    (∀ geometry, cloneGeometry bytes persistedRegion allowGrowth = .ok geometry →
      IsLeast {region | Fits (bytes / 512) (persistedRegion.isSome && !allowGrowth)
        (startRegion persistedRegion) region} geometry.regionSectors ∧
      geometry.regions = bytes / 512 ⌈/⌉ geometry.regionSectors ∧
      IsLeast {m | 4 * mib ∣ m ∧ 16 * mib + geometry.regions ≤ m} geometry.metadataBytes) ∧
    cloneGeometry bytes persistedRegion allowGrowth ≠
      .error "calculated dm-clone metadata exceeds the supported 16 GiB limit\n" := by
  by_cases hstart : ValidStart (startRegion persistedRegion)
  · obtain ⟨hleast, hexists⟩ := @growRegion_spec (bytes / 512) _
      (persistedRegion.isSome && !allowGrowth) hstart.2.2
    rw [cloneGeometry_eq hpos haligned hstart]
    cases hgrow : growRegion (bytes / 512) (persistedRegion.isSome && !allowGrowth)
        (startRegion persistedRegion) with
    | error message =>
      refine ⟨⟨fun ⟨_, h⟩ => (nomatch h), fun ⟨_, hfits⟩ => ?_⟩, fun _ h => (nomatch h), fun h => ?_⟩
      · obtain ⟨region, hregion⟩ := hexists hfits
        rw [hgrow] at hregion
        cases hregion
      · rcases growRegion_message hgrow with rfl | rfl
        · exact absurd (Except.error.inj h) (by decide)
        · exact absurd (Except.error.inj h) (by decide)
    | ok region =>
      have hregion := hleast region hgrow
      refine ⟨⟨fun _ => ⟨hstart, region, hregion.1⟩, fun _ => ⟨_, rfl⟩⟩, ?_, fun h => nomatch h⟩
      rintro _ ⟨⟩
      have hmetadata := isLeast_multiple (show 0 < 4 * mib by decide)
        (16 * mib + bytes / 512 ⌈/⌉ region)
      exact ⟨hregion, rfl, hmetadata⟩
  · rw [cloneGeometry_refused hpos haligned hstart]
    refine ⟨⟨fun ⟨_, h⟩ => (nomatch h), fun h => absurd h.1 hstart⟩, fun _ h => (nomatch h), fun h => ?_⟩
    exact absurd (Except.error.inj h) (by decide)

/-- 128 PiB is the largest size with a geometry. -/
theorem clone_geometry_exact_largest :
    (∃ geometry, cloneGeometry (2 ^ 57) none false = .ok geometry) ∧
      ∀ geometry, cloneGeometry (2 ^ 57) none false = .ok geometry →
        geometry.regions = 2 ^ 57 / 512 ⌈/⌉ geometry.regionSectors := by
  obtain ⟨hiff, hexact, -⟩ :=
    @clone_geometry_exact (2 ^ 57) none false (by decide) (by decide)
  have hstart : ValidStart (startRegion none) := ⟨⟨11, by decide⟩, by decide, by decide⟩
  have hfits : Fits (2 ^ 57 / 512) false (startRegion none) maxRegionSectors :=
    ⟨⟨10, by decide, fun h => nomatch h⟩, by decide, by decide⟩
  exact ⟨hiff.mpr ⟨hstart, _, hfits⟩, fun geometry h => (hexact geometry h).2.1⟩

end SharedLvmThin.CloneGeometry
