import SharedLvmThin.KeyedLists
import SharedLvmThin.PythonText
import SharedLvmThin.Tilings
import Mathlib.Data.Prod.Lex

/-! The mapper table of a linear logical volume,
  rebuilt from the segment report of its volume group.
The report may list the fragments in any order; the table lists them by their logical start. -/

namespace SharedLvmThin.BackingGraph
open Python KeyedLists Tilings
open Perl (dieIf plus)

/-! ## The report -/

/-- What the caller pins. Sizes are in sectors. -/
structure Request where
  lvName : String
  vgUuid : String
  lvUuid : String
  pvPath : String
  pvDevno : String
  peStart : Int
  extentSectors : Int
  pvSectors : Int
  expectedSectors : Int

/-- `re.fullmatch(r"[0-9]+:[0-9]+", pv_devno)` -/
def isDevno (s : String) : Bool :=
  match split ':' s with
  | [major, minor] => plus Char.isDigit major && plus Char.isDigit minor
  | _ => false

def withoutHyphens (s : String) : String := replaceChar '-' "" s

def isUuid (s : String) : Bool :=
  plus (fun c => c.isAlphanum || c = '-') s && (withoutHyphens s).toList.length = 32

def checkRequest (r : Request) : Except String Unit := do
  dieIf ([r.peStart, r.extentSectors, r.pvSectors, r.expectedSectors].any (· < 0) ||
    r.extentSectors = 0 || r.expectedSectors =
      0 || r.peStart ≥ r.pvSectors) "invalid backing geometry"
  dieIf (!isDevno r.pvDevno) "invalid pinned PV device number"
  Perl.forEach [r.vgUuid, r.lvUuid] fun uuid => dieIf (!isUuid uuid) "invalid scoped LVM UUID"

structure Segment where
  start : Int
  length : Int
  physical : Int
deriving DecidableEq

/-- `re.fullmatch(re.escape(pv_path) + r"\(([0-9]+)\)", devices)` -/
def extentText? (pvPath devices : String) : Option String :=
  match devices.toList.drop pvPath.toList.length with
  | '(' :: rest =>
    let digits := rest.takeWhile Char.isDigit
    if pvPath.toList.isPrefixOf devices.toList && digits ≠ [] && rest.drop digits.length =
      [')'] then
      some (String.ofList digits)
    else none
  | _ => none

def segmentFields (line : String) : List String := (split '|' line).map strip

def readSegment (r : Request) (line : String) : Except String Segment :=
  match segmentFields line with
  | [name, kind, startText, lengthText, devices] => do
    dieIf (name ≠ r.lvName || kind ≠ "linear" || !isdigit startText || !isdigit lengthText)
      "malformed or unsupported scoped LV segment"
    match extentText? r.pvPath devices with
    | none => .error "LV segment does not use the pinned PV"
    | some extentText =>
      let start ← int startText
      let length ← int lengthText
      let extent ← int extentText
      let physical := r.peStart + extent * r.extentSectors
      dieIf (length = 0 || start % r.extentSectors ≠ 0 || length % r.extentSectors ≠ 0 ||
        physical + length > r.pvSectors) "LV extent range is invalid"
      return ⟨start, length, physical⟩
  | _ => .error "malformed or unsupported scoped LV segment"

def readSegments (r : Request) : List String → Except String (List Segment)
  | [] => .ok []
  | line :: rest => do
    let s ← readSegment r line
    let segments ← readSegments r rest
    return s :: segments

/-! ## The table -/

/-- The loop over the sorted rows. -/
def sweep (logical : Int) : List Segment → Except String Int
  | [] => .ok logical
  | s :: rest => do
    dieIf (s.start ≠ logical) "LV segments overlap or leave a gap"
    sweep (logical + s.length) rest

def Segment.key (s : Segment) : Lex (Int × Lex (Int × Int)) :=
    toLex (s.start, toLex (s.length, s.physical))

def tableLine (devno : String) (s : Segment) : String :=
  toString s.start ++ " " ++ toString s.length ++ " linear " ++ devno ++ " " ++ toString s.physical

def tableText (devno : String) (segments : List Segment) : String :=
  "\n".intercalate (segments.map (tableLine devno))

structure Graph where
  uuid : String
  readonly : Bool
  table : String
  deps : List String
deriving DecidableEq

/-- `derive_backing_graph` -/
def deriveBackingGraph (segmentOutput : String) (r : Request) : Except String Graph := do
  checkRequest r
  let rows ← readSegments r (splitlines segmentOutput)
  let logical ← sweep 0 (sortBy Segment.key rows)
  dieIf (logical ≠ r.expectedSectors) "LV segment inventory does not cover authenticated size"
  return ⟨"LVM-" ++ withoutHyphens r.vgUuid ++ withoutHyphens r.lvUuid, false,
    tableText r.pvDevno (sortBy Segment.key rows), [r.pvDevno]⟩

/-! ## What a report says -/

/-- The pinned identities and the geometry are in order. -/
structure ValidRequest (r : Request) : Prop where
  peStart : 0 ≤ r.peStart ∧ r.peStart < r.pvSectors
  extent : 0 < r.extentSectors
  expected : 0 < r.expectedSectors
  devno : isDevno r.pvDevno = true
  vgUuid : isUuid r.vgUuid = true
  lvUuid : isUuid r.lvUuid = true

/-- The line reports this linear segment of the named volume on the pinned device. -/
structure Reports (r : Request) (line : String) (s : Segment) : Prop where
  fields : ∃ startText lengthText extentText devices,
    segmentFields line = [r.lvName, "linear", startText, lengthText, devices] ∧
      extentText? r.pvPath devices = some extentText ∧
      (isdigit startText = true ∧ int startText = .ok s.start) ∧
      (isdigit lengthText = true ∧ int lengthText = .ok s.length) ∧
      ∃ extent, int extentText = .ok extent ∧ s.physical = r.peStart + extent * r.extentSectors
  nonempty : s.length ≠ 0
  aligned : r.extentSectors ∣ s.start ∧ r.extentSectors ∣ s.length
  inside : s.physical + s.length ≤ r.pvSectors

/-- The segments tile the logical volume. -/
def Covered (r : Request) (segments : List Segment) : Prop :=
  Tiles Segment.start Segment.length 0 r.expectedSectors segments

/-- The table maps the logical sector to the physical one. -/
def Maps (segments : List Segment) (logical physical : Int) : Prop :=
  ∃ s ∈ segments, Covers Segment.start Segment.length logical s ∧
    physical = s.physical + (logical - s.start)

/-- The physical ranges have no sector in common. -/
def Apart (s t : Segment) : Prop :=
  s.physical + s.length ≤ t.physical ∨ t.physical + t.length ≤ s.physical

/-! ## Reading the report -/

theorem checkRequest_eq_ok {r : Request} : checkRequest r = .ok () ↔ ValidRequest r := by
  simp only [checkRequest, Perl.bind_eq_ok, Perl.dieIf_eq_ok, Perl.exists_unit, Perl.forEach_eq_ok,
    Bool.or_eq_false_iff, List.any_eq_false, decide_eq_true_eq, decide_eq_false_iff_not,
    Bool.not_eq_false', List.forall_mem_cons, List.not_mem_nil, false_implies, implies_true,
      and_true]
  constructor
  · rintro ⟨⟨⟨⟨⟨hpe, hextent, hpv, hexpected⟩, hextent'⟩, hexpected'⟩, hstart⟩, hdevno, hvg, hlv⟩
    exact ⟨⟨by omega, by omega⟩, by omega, by omega, hdevno, hvg, hlv⟩
  · rintro ⟨⟨hpe, hstart⟩, hextent, hexpected, hdevno, hvg, hlv⟩
    exact ⟨⟨⟨⟨⟨by omega, by omega, by omega, by omega⟩, by omega⟩, by omega⟩, by omega⟩, hdevno,
      hvg, hlv⟩

theorem int_nonneg {s : String} {n : Int} (h : int s = .ok n) : 0 ≤ n := by
  simp only [int, Perl.bind_eq_ok, Perl.dieIf_eq_ok, Perl.exists_unit, Perl.pure_eq_ok] at h
  obtain ⟨-, -, rfl⟩ := h
  exact Int.natCast_nonneg _

theorem readSegment_eq_ok {r : Request} {line : String} {s : Segment} :
    readSegment r line = .ok s ↔ Reports r line s := by
  unfold readSegment
  split
  · rename_i name kind startText lengthText devices hfields
    split
    · rename_i hextent
      simp only [Perl.bind_eq_ok, Perl.dieIf_eq_ok, Perl.exists_unit]
      constructor
      · rintro ⟨-, h⟩
        cases h
      · rintro ⟨⟨_, _, _, _, hfields', hextent', -⟩, -, -, -⟩
        rw [hfields] at hfields'
        cases hfields'
        rw [hextent] at hextent'
        cases hextent'
    · rename_i extentText hextent
      simp only [Perl.bind_eq_ok, Perl.dieIf_eq_ok, Perl.exists_unit, Perl.pure_eq_ok,
        Bool.or_eq_false_iff, decide_eq_false_iff_not, ne_eq, not_not, Bool.not_eq_false', not_lt,
          gt_iff_lt]
      constructor
      · rintro ⟨⟨⟨⟨rfl, rfl⟩, hstart⟩, hlength⟩, start, hstartInt, length, hlengthInt, extent,
          hextentInt, ⟨⟨⟨hne, hstartMod⟩, hlengthMod⟩, hinside⟩, rfl⟩
        exact ⟨⟨_, _, _, _, hfields, hextent, ⟨hstart, hstartInt⟩, ⟨hlength, hlengthInt⟩, extent,
          hextentInt, rfl⟩, hne,
            ⟨Int.dvd_of_emod_eq_zero hstartMod, Int.dvd_of_emod_eq_zero hlengthMod⟩, hinside⟩
      · rintro ⟨⟨_, _, _, _, hfields', hextent', ⟨hstart, hstartInt⟩, ⟨hlength, hlengthInt⟩, extent,
          hextentInt, hphysical⟩, hne, ⟨hstartDvd, hlengthDvd⟩, hinside⟩
        rw [hfields] at hfields'
        cases hfields'
        rw [hextent] at hextent'
        cases hextent'
        rw [hphysical] at hinside
        refine ⟨⟨⟨⟨rfl, rfl⟩, hstart⟩, hlength⟩, s.start, hstartInt, s.length, hlengthInt, extent,
          hextentInt,
          ⟨⟨⟨hne, Int.emod_eq_zero_of_dvd hstartDvd⟩, Int.emod_eq_zero_of_dvd hlengthDvd⟩, hinside⟩,
            ?_⟩
        rw [← hphysical]
  · rename_i hother
    constructor
    · intro h
      cases h
    · rintro ⟨⟨startText, lengthText, extentText, devices, hfields, -⟩, -, -, -⟩
      exact absurd hfields (hother _ _ _ _ _)

theorem readSegments_eq_ok {r : Request} {lines : List String} {rows : List Segment} :
    readSegments r lines = .ok rows ↔ List.Forall₂ (Reports r) lines rows := by
  induction lines generalizing rows with
  | nil =>
    rw [List.forall₂_nil_left_iff, readSegments, Except.ok.injEq, eq_comm]
  | cons line lines ih =>
    simp only [readSegments, Perl.bind_eq_ok, Perl.pure_eq_ok, readSegment_eq_ok, ih,
      List.forall₂_cons_left_iff]
    constructor
    · rintro ⟨s, hs, segments, hsegments, rfl⟩
      exact ⟨s, segments, hs, hsegments, rfl⟩
    · rintro ⟨s, segments, hs, hsegments, rfl⟩
      exact ⟨s, hs, segments, hsegments, rfl⟩

theorem sweep_eq_ok {segments : List Segment} {first last : Int} :
    sweep first segments = .ok last ↔
      Contiguous Segment.start Segment.length first segments last := by
  induction segments generalizing first with
  | nil => simp [sweep, Contiguous]
  | cons s rest ih =>
    simp only [sweep, Perl.bind_eq_ok, Perl.dieIf_eq_ok, Perl.exists_unit, ih, Contiguous,
      decide_eq_false_iff_not, ne_eq, not_not]

/-! ## The table covers the volume -/

theorem Reports.length_pos {r : Request} {line : String} {s : Segment} (h : Reports r line s) :
    0 < s.length := by
  obtain ⟨_, _, _, _, -, -, -, ⟨-, hlength⟩, -⟩ := h.fields
  have hnonneg := int_nonneg hlength
  have hne := h.nonempty
  omega

theorem length_pos_of_reports {r : Request} {lines : List String} {rows : List Segment}
    (h : List.Forall₂ (Reports r) lines rows) : ∀ s ∈ rows, 0 < s.length := by
  induction h with
  | nil => exact List.forall_mem_nil _
  | cons hrow _ ih => exact List.forall_mem_cons.mpr ⟨hrow.length_pos, ih⟩

theorem Segment.key_injective : Function.Injective Segment.key := by
  intro s t h
  cases s
  cases t
  cases h
  rfl

theorem sortBy_key_perm {rows rows' : List Segment} (h : rows'.Perm rows) :
    sortBy Segment.key rows' = sortBy Segment.key rows := by
  refine List.Perm.eq_of_pairwise ?_ (sortBy_pairwise _ rows') (sortBy_pairwise _ rows) ?_
  · intro s t _ _ hst hts
    exact Segment.key_injective (le_antisymm hst hts)
  · exact ((sortBy_perm _ rows').trans h).trans (sortBy_perm _ rows).symm

theorem starts_sorted (rows : List Segment) :
    (sortBy Segment.key rows).Pairwise fun s t => s.start ≤ t.start := by
  refine (sortBy_pairwise Segment.key rows).imp ?_
  intro s t h
  rcases Prod.Lex.toLex_le_toLex.mp h with hlt | heq
  · exact hlt.le
  · exact heq.1.le

theorem contiguous_sorted_iff {r : Request} {rows : List Segment} (hvalid : ValidRequest r)
    (hpos : ∀ s ∈ rows, 0 < s.length) :
    Contiguous Segment.start Segment.length 0 (sortBy Segment.key rows) r.expectedSectors ↔
      Covered r rows := by
  have hposSorted : ∀ s ∈ sortBy Segment.key rows, 0 < s.length := by
    intro s hs
    exact hpos s (mem_sortBy.mp hs)
  constructor
  · intro h
    exact (h.tiles hposSorted).perm (sortBy_perm _ rows)
  · intro h
    exact (h.perm (sortBy_perm _ rows).symm).contiguous hposSorted (starts_sorted rows)
      hvalid.expected.le

/-- What an accepted report is, and the graph it gives. -/
theorem deriveBackingGraph_eq_ok {r : Request} {text : String} {graph : Graph} :
    deriveBackingGraph text r = .ok graph ↔
      ValidRequest r ∧ ∃ rows, List.Forall₂ (Reports r) (splitlines text) rows ∧ Covered r rows ∧
        graph = ⟨"LVM-" ++ withoutHyphens r.vgUuid ++ withoutHyphens r.lvUuid, false,
          tableText r.pvDevno (sortBy Segment.key rows), [r.pvDevno]⟩ := by
  simp only [deriveBackingGraph, Perl.bind_eq_ok, Perl.exists_unit, Perl.dieIf_eq_ok,
    Perl.pure_eq_ok,
    checkRequest_eq_ok, readSegments_eq_ok, sweep_eq_ok, decide_eq_false_iff_not, ne_eq, not_not]
  constructor
  · rintro ⟨hvalid, rows, hrows, logical, hsweep, rfl, rfl⟩
    exact ⟨hvalid, rows, hrows,
      (contiguous_sorted_iff hvalid (length_pos_of_reports hrows)).mp hsweep, rfl⟩
  · rintro ⟨hvalid, rows, hrows, hcovered, rfl⟩
    exact ⟨hvalid, rows, hrows, _,
      (contiguous_sorted_iff hvalid (length_pos_of_reports hrows)).mpr hcovered, rfl, rfl⟩

theorem deriveBackingGraph_perm {r : Request} {text text' : String} {graph : Graph}
    (h : deriveBackingGraph text r = .ok graph) (hperm : (splitlines text').Perm (splitlines text))
        :
    deriveBackingGraph text' r = .ok graph := by
  obtain ⟨hvalid, rows, hrows, hcovered, rfl⟩ := deriveBackingGraph_eq_ok.mp h
  obtain ⟨rows', hrows', hperm'⟩ := List.perm_comp_forall₂ hperm hrows
  refine deriveBackingGraph_eq_ok.mpr ⟨hvalid, rows', hrows', hcovered.perm hperm'.symm, ?_⟩
  rw [sortBy_key_perm hperm']

/-! ## Logical sectors on one physical sector -/

instance : Std.Symm Apart := ⟨fun _ _ => Or.symm⟩

theorem eq_of_maps {segments : List Segment} (h : segments.Pairwise Apart) {x x' y : Int}
    (hx : Maps segments x y) (hx' : Maps segments x' y) : x = x' := by
  obtain ⟨s, hs, ⟨hstart, hend⟩, rfl⟩ := hx
  obtain ⟨t, ht, ⟨hstart', hend'⟩, hy⟩ := hx'
  by_cases hst : s = t
  · subst hst
    omega
  · rcases h.forall hs ht hst with hbefore | hafter
    · omega
    · omega

/-- Two segments that meet on the device give two logical sectors of one physical sector. -/
theorem exists_maps_of_not_apart {segments : List Segment} {s t : Segment} (hs : s ∈ segments)
    (ht : t ∈ segments) (hspos : 0 < s.length) (htpos : 0 < t.length)
    (hst : s.start + s.length ≤ t.start) (h : ¬ Apart s t) :
    ∃ x x' y, Maps segments x y ∧ Maps segments x' y ∧ x < x' := by
  have hmeet : t.physical < s.physical + s.length ∧ s.physical < t.physical + t.length := by
    unfold Apart at h
    omega
  refine ⟨s.start + (max s.physical t.physical - s.physical),
    t.start + (max s.physical t.physical - t.physical), max s.physical t.physical,
    ⟨s, hs, ⟨by omega, by omega⟩, by omega⟩, ⟨t, ht, ⟨by omega, by omega⟩, by omega⟩, by omega⟩

theorem injective_iff_apart {segments : List Segment} {last : Int} (hpos : ∀ s ∈ segments,
    0 < s.length)
    (h : Contiguous Segment.start Segment.length 0 segments last) :
    (∀ x x' y, Maps segments x y → Maps segments x' y → x = x') ↔ segments.Pairwise Apart := by
  constructor
  · intro hinjective
    refine (h.apart hpos).imp_of_mem ?_
    intro s t hs ht hst
    by_contra hmeet
    obtain ⟨x, x', y, hx, hx', hlt⟩ :=
      exists_maps_of_not_apart hs ht (hpos s hs) (hpos t ht) hst hmeet
    exact hlt.ne (hinjective x x' y hx hx')
  · intro hapart x x' y hx hx'
    exact eq_of_maps hapart hx hx'

/-- A report is accepted exactly when its rows tile the volume, whatever their order; two logical
sectors then share a physical one exactly when the report itself names overlapping ranges. -/
theorem derives_exactly_tilings (r : Request) (text : String) :
    ((∃ graph, deriveBackingGraph text r = .ok graph) ↔
      ValidRequest r ∧ ∃ rows, List.Forall₂ (Reports r) (splitlines text) rows ∧ Covered r rows) ∧
    ∀ graph, deriveBackingGraph text r = .ok graph →
      (∀ text', (splitlines text').Perm (splitlines text) → deriveBackingGraph text' r =
        .ok graph) ∧
      ∃ rows segments, List.Forall₂ (Reports r) (splitlines text) rows ∧ segments.Perm rows ∧
        graph.table = tableText r.pvDevno segments ∧ Covered r segments ∧
        ((∀ x x' y, Maps segments x y → Maps segments x' y → x = x') ↔ rows.Pairwise Apart) := by
  constructor
  · constructor
    · rintro ⟨graph, h⟩
      obtain ⟨hvalid, rows, hrows, hcovered, -⟩ := deriveBackingGraph_eq_ok.mp h
      exact ⟨hvalid, rows, hrows, hcovered⟩
    · rintro ⟨hvalid, rows, hrows, hcovered⟩
      exact ⟨_, deriveBackingGraph_eq_ok.mpr ⟨hvalid, rows, hrows, hcovered, rfl⟩⟩
  · intro graph h
    obtain ⟨hvalid, rows, hrows, hcovered, rfl⟩ := deriveBackingGraph_eq_ok.mp h
    have hperm := sortBy_perm Segment.key rows
    have hpos := length_pos_of_reports hrows
    have hcontiguous := (contiguous_sorted_iff hvalid hpos).mpr hcovered
    refine ⟨fun text' => deriveBackingGraph_perm h, rows, sortBy Segment.key rows, hrows, hperm,
      rfl,
      hcovered.perm hperm.symm, ?_⟩
    rw [injective_iff_apart (fun s hs => hpos s (mem_sortBy.mp hs)) hcontiguous]
    exact hperm.pairwise_iff Or.symm

/-! ## A report that names one extent twice -/

def twoFragments : Request :=
  ⟨"head", "vvvvvvvvvvvvvvvvvvvvvvvvvvvvvvvv", "llllllllllllllllllllllllllllllll", "/dev/p",
    "253:9", 8, 8,
    1024, 16⟩

def twiceReported : String := "head|linear|8|8|/dev/p(2)\nhead|linear|0|8|/dev/p(2)\n"

def twiceReportedSegments : List Segment := [⟨0, 8, 24⟩, ⟨8, 8, 24⟩]

theorem extent_reported_twice_accepted :
    deriveBackingGraph twiceReported twoFragments =
      .ok ⟨"LVM-vvvvvvvvvvvvvvvvvvvvvvvvvvvvvvvvllllllllllllllllllllllllllllllll", false,
        tableText "253:9" twiceReportedSegments, ["253:9"]⟩ ∧
      Maps twiceReportedSegments 0 24 ∧ Maps twiceReportedSegments 8 24 := by
  refine ⟨by decide +kernel, ⟨⟨0, 8, 24⟩, ?_⟩, ⟨⟨8, 8, 24⟩, ?_⟩⟩
  · exact ⟨.head _, ⟨by decide, by decide⟩, rfl⟩
  · exact ⟨.tail _ (.head _), ⟨by decide, by decide⟩, rfl⟩

end SharedLvmThin.BackingGraph
