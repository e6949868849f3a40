import Mathlib.Data.Nat.Count
import Mathlib.Logic.Relation
import Mathlib.Tactic

/-!
# Finite runs of a step relation

A run is a sequence of states whose first `n` steps are steps of the relation. The
rules turn a fact about one step into a fact about every state of a run.
-/

namespace Runs

variable {α β : Type} {R : α → α → Prop} {σ : ℕ → α} {n : ℕ}

def IsRun (R : α → α → Prop) (σ : ℕ → α) (n : ℕ) : Prop := ∀ i < n, R (σ i) (σ (i + 1))

/-- What holds initially and is kept by every step holds in every state of a run. -/
theorem IsRun.invariant (hrun : IsRun R σ n) {P : α → Prop} (h0 : P (σ 0))
    (hstep : ∀ a b, R a b → P a → P b) : ∀ i ≤ n, P (σ i) := by
  intro i
  induction i with
  | zero => exact fun _ => h0
  | succ i ih => exact fun hi => hstep _ _ (hrun i (by omega)) (ih (by omega))

/-- An observation that no step of a segment changes is constant on the segment. -/
theorem constant_on (f : α → β) {i j : ℕ} (hij : i ≤ j)
    (hstep : ∀ k, i ≤ k → k < j → f (σ (k + 1)) = f (σ k)) : f (σ j) = f (σ i) := by
  induction j, hij using Nat.le_induction with
  | base => rfl
  | succ j hij ih =>
    rw [hstep j hij (by omega)]
    exact ih fun k hik hkj => hstep k hik (by omega)

/-- A counter that moves by one exactly at marked steps counts them. -/
theorem counts (f : α → ℕ) (mark : ℕ → Prop) [DecidablePred mark]
    (hstep : ∀ i < n, f (σ (i + 1)) = f (σ i) + if mark i then 1 else 0) :
    ∀ i ≤ n, f (σ i) = f (σ 0) + Nat.count mark i := by
  intro i
  induction i with
  | zero => simp
  | succ i ih =>
    intro hi
    rw [hstep i (by omega), ih (by omega), Nat.count_succ]
    omega

/-! ## Labelled runs -/

variable {L : Type} {S : α → L → α → Prop} {label : ℕ → L}

/-- A run whose steps carry the call that made them. -/
def IsTrace (S : α → L → α → Prop) (σ : ℕ → α) (label : ℕ → L) (n : ℕ) : Prop :=
  ∀ i < n, S (σ i) (label i) (σ (i + 1))

theorem IsTrace.invariant_from (hrun : IsTrace S σ label n) {P : α → Prop} {i : ℕ}
    (h0 : P (σ i)) (hstep : ∀ a l b, S a l b → P a → P b) : ∀ j, i ≤ j → j ≤ n → P (σ j) := by
  intro j hij
  induction j, hij using Nat.le_induction with
  | base => exact fun _ => h0
  | succ j hij ih => exact fun hj => hstep _ _ _ (hrun j (by omega)) (ih (by omega))

end Runs
