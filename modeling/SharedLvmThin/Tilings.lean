import Mathlib.Algebra.Order.Ring.Int
import Mathlib.Data.List.Basic

/-! Half-open ranges of integers that tile an interval. A list of ranges that follow one another
without a gap tiles the interval they span, and a tiling in the order of its starts is such a list. -/

namespace Tilings

variable {α : Type} {start length : α → ℤ}

/-- The range of `a` contains the point. -/
def Covers (start length : α → ℤ) (x : ℤ) (a : α) : Prop := start a ≤ x ∧ x < start a + length a

instance (x : ℤ) (a : α) : Decidable (Covers start length x a) := inferInstanceAs (Decidable (_ ∧ _))

/-- Each range starts where the one before it ends. -/
def Contiguous (start length : α → ℤ) (first : ℤ) : List α → ℤ → Prop
  | [], last => first = last
  | a :: rest, last => start a = first ∧ Contiguous start length (first + length a) rest last

/-- Every point of the interval lies in one range, and no range leaves the interval. -/
structure Tiles (start length : α → ℤ) (first last : ℤ) (l : List α) : Prop where
  inside : ∀ a ∈ l, first ≤ start a ∧ start a + length a ≤ last
  once : ∀ x, first ≤ x → x < last → l.countP (fun a => Covers start length x a) = 1

theorem Tiles.perm {first last : ℤ} {l l' : List α} (h : Tiles start length first last l)
    (hperm : l.Perm l') : Tiles start length first last l' := by
  constructor
  · intro a ha
    exact h.inside a (hperm.mem_iff.mpr ha)
  · intro x hfirst hlast
    rw [← hperm.countP_eq]
    exact h.once x hfirst hlast

theorem Contiguous.le {first last : ℤ} {l : List α} (hpos : ∀ a ∈ l, 0 < length a)
    (h : Contiguous start length first l last) : first ≤ last := by
  induction l generalizing first with
  | nil => exact le_of_eq h
  | cons a rest ih =>
    obtain ⟨ha, hrest⟩ := List.forall_mem_cons.mp hpos
    have hle := ih hrest h.2
    omega

theorem Contiguous.tiles {first last : ℤ} {l : List α} (hpos : ∀ a ∈ l, 0 < length a)
    (h : Contiguous start length first l last) : Tiles start length first last l := by
  induction l generalizing first with
  | nil =>
    have heq : first = last := h
    exact ⟨by simp, fun x hfirst hlast => by omega⟩
  | cons a rest ih =>
    obtain ⟨ha, hrest⟩ := List.forall_mem_cons.mp hpos
    obtain ⟨hstart, hfollow⟩ := h
    have htiles := ih hrest hfollow
    have hle := Contiguous.le hrest hfollow
    constructor
    · intro b hb
      rcases List.mem_cons.mp hb with rfl | hb
      · omega
      · have hinside := htiles.inside b hb
        omega
    · intro x hfirst hlast
      by_cases hx : x < first + length a
      · have hnone : rest.countP (fun b => Covers start length x b) = 0 := by
          rw [List.countP_eq_zero]
          intro b hb hcovers
          have hinside := (htiles.inside b hb).1
          have hstartB := (of_decide_eq_true hcovers).1
          omega
        have hcovers : Covers start length x a := ⟨by omega, by omega⟩
        rw [List.countP_cons, hnone, if_pos (decide_eq_true hcovers)]
      · have hnot : ¬ Covers start length x a := fun hcovers => by
          have hend := hcovers.2
          omega
        rw [List.countP_cons, if_neg (by simpa using hnot), htiles.once x (by omega) hlast]

/-- In a tiling sorted by its starts, the first range starts the interval and the others tile the
rest. -/
theorem Tiles.uncons {first last : ℤ} {a : α} {rest : List α} (hpos : ∀ b ∈ a :: rest, 0 < length b)
    (hsorted : ∀ b ∈ rest, start a ≤ start b) (h : Tiles start length first last (a :: rest)) :
    start a = first ∧ Tiles start length (first + length a) last rest := by
  obtain ⟨ha, hrest⟩ := List.forall_mem_cons.mp hpos
  have hinside := h.inside a List.mem_cons_self
  have hlt : first < last := by omega
  obtain ⟨b, hb, hcovers⟩ := List.countP_pos_iff.mp
    (show 0 < (a :: rest).countP (fun b => Covers start length first b) by
      rw [h.once first le_rfl hlt]
      exact Nat.one_pos)
  have hbstart := (of_decide_eq_true hcovers).1
  have hstart : start a = first := by
    rcases List.mem_cons.mp hb with rfl | hb
    · omega
    · have hle := hsorted b hb
      omega
  have hcount : ∀ x, (a :: rest).countP (fun b => Covers start length x b) =
      rest.countP (fun b => Covers start length x b) + if Covers start length x a then 1 else 0 := by
    intro x
    rw [List.countP_cons]
    simp
  refine ⟨hstart, ?_, ?_⟩
  · intro c hc
    have hcinside := h.inside c (List.mem_cons_of_mem a hc)
    refine ⟨?_, hcinside.2⟩
    by_contra hearly
    have hcpos := hrest c hc
    have honce := h.once (start c) hcinside.1 (by omega)
    have hself : 0 < rest.countP (fun b => Covers start length (start c) b) :=
      List.countP_pos_iff.mpr ⟨c, hc, decide_eq_true ⟨le_rfl, by omega⟩⟩
    rw [hcount, if_pos ⟨by omega, by omega⟩] at honce
    omega
  · intro x hx hlast
    have honce := h.once x (by omega) hlast
    have hnot : ¬ Covers start length x a := fun hcovers => by
      have hend := hcovers.2
      omega
    rw [hcount, if_neg hnot] at honce
    exact honce

theorem Tiles.contiguous {first last : ℤ} {l : List α} (hpos : ∀ a ∈ l, 0 < length a)
    (hsorted : l.Pairwise fun a b => start a ≤ start b) (hle : first ≤ last)
    (h : Tiles start length first last l) : Contiguous start length first l last := by
  induction l generalizing first with
  | nil =>
    by_contra hne
    have hlt : first < last := lt_of_le_of_ne hle hne
    have honce := h.once first le_rfl hlt
    simp at honce
  | cons a rest ih =>
    obtain ⟨hstarts, hrest⟩ := List.pairwise_cons.mp hsorted
    obtain ⟨hstart, htiles⟩ := h.uncons hpos hstarts
    have hinside := h.inside a List.mem_cons_self
    exact ⟨hstart, ih (List.forall_mem_cons.mp hpos).2 hrest (by omega) htiles⟩

/-- Later ranges start after the earlier ones end. -/
theorem Contiguous.apart {first last : ℤ} {l : List α} (hpos : ∀ a ∈ l, 0 < length a)
    (h : Contiguous start length first l last) :
    l.Pairwise fun a b => start a + length a ≤ start b := by
  induction l generalizing first with
  | nil => exact .nil
  | cons a rest ih =>
    obtain ⟨-, hrest⟩ := List.forall_mem_cons.mp hpos
    obtain ⟨hstart, hfollow⟩ := h
    refine List.pairwise_cons.mpr ⟨fun b hb => ?_, ih hrest hfollow⟩
    have hinside := ((hfollow.tiles hrest).inside b hb).1
    omega

end Tilings
