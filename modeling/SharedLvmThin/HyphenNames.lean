import Mathlib.Data.List.Basic
import Mathlib.Tactic

/-!
# Names joined by a separator that is doubled inside them

Two words over any alphabet are joined by a mark, and every mark inside a word is written
twice. The joined word determines both as soon as the second one does not begin with the mark:
at the separator, and nowhere else, a run of marks has odd length.
-/

namespace HyphenNames

variable {α : Type} [DecidableEq α] {mark : α} {v v' l l' : List α}

/-- Every mark twice. -/
def doubled (mark : α) : List α → List α
  | [] => []
  | c :: cs => if c = mark then c :: c :: doubled mark cs else c :: doubled mark cs

@[simp] theorem doubled_nil : doubled mark [] = [] := rfl

theorem doubled_mark (cs : List α) : doubled mark (mark :: cs) =
    mark :: mark :: doubled mark cs := by
  rw [doubled, if_pos rfl]

theorem doubled_other {c : α} (h : c ≠ mark) (cs : List α) :
    doubled mark (c :: cs) = c :: doubled mark cs := by
  rw [doubled, if_neg h]

@[simp] theorem head?_doubled (cs : List α) : (doubled mark cs).head? = cs.head? := by
  cases cs with
  | nil => rfl
  | cons c cs =>
    by_cases hc : c = mark
    · rw [hc, doubled_mark, List.head?_cons, List.head?_cons]
    · rw [doubled_other hc, List.head?_cons, List.head?_cons]

theorem doubled_injective : Function.Injective (doubled mark) := by
  intro v
  induction v with
  | nil =>
    intro v' h
    have hhead := congrArg List.head? h
    rw [head?_doubled, head?_doubled, List.head?_nil] at hhead
    exact (List.head?_eq_none_iff.mp hhead.symm).symm
  | cons c v ih =>
    intro v' h
    have hhead := congrArg List.head? h
    rw [head?_doubled, head?_doubled, List.head?_cons] at hhead
    cases v' with
    | nil => exact nomatch hhead
    | cons c' v' =>
      rw [List.head?_cons, Option.some.injEq] at hhead
      subst hhead
      by_cases hc : c = mark
      · rw [hc, doubled_mark, doubled_mark, List.cons.injEq, List.cons.injEq] at h
        rw [ih h.2.2]
      · rw [doubled_other hc, doubled_other hc, List.cons.injEq] at h
        rw [ih h.2]

/-- The joined word begins with an even run of marks and no word, or the separator is reached. -/
theorem joined_injective (hl : l.head? ≠ some mark) (hl' : l'.head? ≠ some mark) :
    doubled mark v ++ mark :: doubled mark l = doubled mark v' ++ mark :: doubled mark l' →
      v = v' ∧ l = l' := by
  -- An empty first word against a longer one would begin the second word with the mark.
  have hempty : ∀ {c : α} {w m m' : List α}, m.head? ≠ some mark →
      mark :: doubled mark m ≠ doubled mark (c :: w) ++ mark :: doubled mark m' := by
    intro c w m m' hm h
    by_cases hc : c = mark
    · rw [hc, doubled_mark, List.cons_append, List.cons_append, List.cons.injEq] at h
      have hhead := congrArg List.head? h.2
      rw [head?_doubled, List.head?_cons] at hhead
      exact hm hhead
    · rw [doubled_other hc, List.cons_append, List.cons.injEq] at h
      exact hc h.1.symm
  induction v generalizing v' with
  | nil =>
    intro h
    cases v' with
    | nil =>
      rw [doubled_nil, List.nil_append, List.nil_append, List.cons.injEq] at h
      exact ⟨rfl, doubled_injective h.2⟩
    | cons c' v' => exact absurd h (hempty hl)
  | cons c v ih =>
    intro h
    cases v' with
    | nil => exact absurd h.symm (hempty hl')
    | cons c' v' =>
      have hhead := congrArg List.head? h
      simp only [List.head?_append, head?_doubled, List.head?_cons, Option.some_or,
        Option.some.injEq] at hhead
      subst hhead
      have htail : doubled mark v ++ mark :: doubled mark l =
          doubled mark v' ++ mark :: doubled mark l' := by
        by_cases hc : c = mark
        · rw [hc, doubled_mark, doubled_mark] at h
          exact (List.cons.inj (List.cons.inj h).2).2
        · rw [doubled_other hc, doubled_other hc] at h
          exact (List.cons.inj h).2
      obtain ⟨rfl, rfl⟩ := ih htail
      exact ⟨rfl, rfl⟩

end HyphenNames
