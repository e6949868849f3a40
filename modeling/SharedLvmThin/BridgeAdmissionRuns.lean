import SharedLvmThin.BridgeMutations
import SharedLvmThin.Runs

/-! Every order of bridge admissions and of mutations on one volume group, by any nodes, wherever a
command fails or a call dies. -/

namespace SharedLvmThin.Bridge
open Perl Effects ThickVolume Runs

variable {lock : Option Holder} {σ : ℕ → Store} {event : ℕ → Event} {n : ℕ}

/-- Whoever acquired the group holds it until his own release. Meanwhile a call that issues a
command is his own, and the release too comes from his node. -/
theorem admission_exclusive (hrun : IsTrace Step σ event n)
    (hstart : Reads (σ 0).vgTags lock) : (∀ k ≤ n, ∃ lock, Reads (σ k).vgTags lock) ∧
      ∀ (i j : ℕ) (h : Holder), i < j → j ≤ n → (event i).Returns (σ i) →
        (event i).call.Asks .acquire h →
        (∀ k, i < k → k < j → ¬ (event k).call.Asks .release h) →
        Reads (σ j).vgTags (some h) ∧
          (j < n → (event j).issued (σ j) ≠ [] → (event j).call.By h) := by
  have hall (k : ℕ) (hk : k ≤ n) : ∃ lock, Reads (σ k).vgTags lock := by
    refine hrun.invariant_from (P := fun S => ∃ lock, Reads S.vgTags lock) ⟨lock, hstart⟩ ?_ k
      (Nat.zero_le k) hk
    rintro S e S' rfl ⟨lock, hreads⟩
    exact reads_step hreads e
  refine ⟨hall, fun i j h hij hj hreturns hasks hkept => ?_⟩
  have hheld : Reads (σ j).vgTags (some h) := by
    induction j, hij using Nat.le_induction with
    | base =>
      have hnext : σ (i + 1) = (event i).store (σ i) := hrun i (by omega)
      rw [hnext]
      exact acquired_of_returns hreturns hasks
    | succ j hij ih =>
      have hnext : σ (j + 1) = (event j).store (σ j) := hrun j (by omega)
      rw [hnext]
      refine (held_step ?_ (hkept j (by omega) (by omega))).1
      exact ih (by omega) fun k hik hkj => hkept k hik (by omega)
  refine ⟨hheld, fun hjn hissued => ?_⟩
  cases turn hheld (event j) with
  | nothing hnone => exact absurd hnone hissued
  | acquire _ _ _ hfree _ => cases hfree
  | release h' _ hby hsame _ =>
    obtain rfl := Option.some.inj hsame
    exact hby
  | kept hby _ => exact hby h rfl

/-! ### A bridge and another node -/

def answering : Env where
  storage := ⟨"thick", "vg", true, some "vg-1", some "pv-1", some "wwid-1", some "10", none⟩
  check _ _ := .ok ()
  outcome _ := ⟨true, .ok ()⟩
  randomUuid _ := "01234567-89ab-cdef-0123-456789abcdef"
  vgState _ := "Vg-1|7|100|200"

def onNode (node : String) : Context := ⟨.ok node, none, none⟩

/-- node1 takes the group; node2 tries to, and to free a volume. -/
def contended : ℕ → Event
  | 0 => ⟨answering, ∅, .admission (onNode "node1") .acquire "00000000000000000000000000000001"
      "node1", none⟩
  | 1 => ⟨answering, ∅, .admission (onNode "node2") .acquire "00000000000000000000000000000002"
      "node2", none⟩
  | _ => ⟨answering, ∅, .mutation (onNode "node2") (freeImage "vm-100-disk-0" false false), none⟩

def contendedState : ℕ → Store
  | 0 => ⟨"vg-1", ∅, []⟩
  | k + 1 => (contended k).store (contendedState k)

theorem admission_exclusive_contended : Reads (contendedState 3).vgTags
    (some ⟨"00000000000000000000000000000001", "node1"⟩) := by
  have hfree : Reads (contendedState 0).vgTags none := ⟨by simp [contendedState], rfl, rfl, rfl⟩
  have hreturns : (contended 0).Returns (contendedState 0) := ⟨rfl, by decide +kernel⟩
  have hrun : IsTrace Step contendedState contended 3 := fun _ _ => rfl
  refine ((admission_exclusive hrun hfree).2 0 3 _ (by decide) le_rfl hreturns
    ⟨rfl, by decide +kernel⟩ ?_).1
  intro k hk hk'
  interval_cases k <;> simp [contended, Call.Asks]

end SharedLvmThin.Bridge
