import Mathlib.Logic.Basic
import Mathlib.Tactic

/-!
# Loops that may stop

One round of a loop either stops with a result or goes on with a state. A loop ends when
finitely many rounds reach a result; the result is then determined.
-/

namespace Loops

variable {σ ρ : Type} {round : σ → ρ ⊕ σ} {s : σ}

inductive Ends (round : σ → ρ ⊕ σ) : σ → ρ → Prop
  | stop {s : σ} {r : ρ} (h : round s = .inl r) : Ends round s r
  | again {s s' : σ} {r : ρ} (h : round s = .inr s') (hrest : Ends round s' r) : Ends round s r

theorem Ends.unique {r r' : ρ} (h : Ends round s r) (h' : Ends round s r') : r = r' := by
  induction h with
  | stop hstop =>
    cases h' with
    | stop hstop' => exact Sum.inl.inj (hstop.symm.trans hstop')
    | again hagain _ => exact nomatch hstop.symm.trans hagain
  | again hagain _ ih =>
    cases h' with
    | stop hstop => exact nomatch hstop.symm.trans hagain
    | again hagain' hrest' =>
      rw [Sum.inr.inj (hagain.symm.trans hagain')] at ih
      exact ih hrest'

end Loops
