import Mathlib.Data.List.Sort

/-!
# Lists of records with distinct keys

Sorting by a key forgets the order of a list and nothing else as long as the keys are
distinct; a record is then found by its key whatever the order.
-/

namespace KeyedLists

variable {α κ : Type} [LinearOrder κ] {key : α → κ} {l l' : List α}

def sortBy (key : α → κ) (l : List α) : List α := l.insertionSort fun a b => key a ≤ key b

theorem sortBy_perm (key : α → κ) (l : List α) : (sortBy key l).Perm l :=
  List.perm_insertionSort _ l

@[simp] theorem mem_sortBy {a : α} : a ∈ sortBy key l ↔ a ∈ l := (sortBy_perm key l).mem_iff

theorem sortBy_pairwise (key : α → κ) (l : List α) :
    (sortBy key l).Pairwise fun a b => key a ≤ key b := by
  have : Std.Total fun a b : α => key a ≤ key b := ⟨fun a b => le_total (key a) (key b)⟩
  have : IsTrans α fun a b => key a ≤ key b := ⟨fun _ _ _ => le_trans⟩
  exact List.pairwise_insertionSort _ l

@[simp] theorem sortBy_eq_nil : sortBy key l = [] ↔ l = [] := by
  rw [← List.length_eq_zero_iff, (sortBy_perm key l).length_eq, List.length_eq_zero_iff]

@[simp] theorem any_sortBy (p : α → Bool) : (sortBy key l).any p = l.any p :=
  (sortBy_perm key l).any_eq

@[simp] theorem all_sortBy (p : α → Bool) : (sortBy key l).all p = l.all p :=
  (sortBy_perm key l).all_eq

@[simp] theorem nodup_map_sortBy {β : Type} (f : α → β) :
    ((sortBy key l).map f).Nodup ↔ (l.map f).Nodup :=
  ((sortBy_perm key l).map f).nodup_iff

theorem sortBy_map {β : Type} {f : α → β} {key' : β → κ} (hf : ∀ a, key' (f a) = key a)
    (l : List α) : sortBy key' (l.map f) = (sortBy key l).map f := by
  refine (List.map_insertionSort _ _ f l ?_).symm
  intro a _ b _
  rw [hf, hf]

theorem eq_of_perm_of_pairwise (hkeys : (l.map key).Nodup) (hperm : l.Perm l')
    (hl : l.Pairwise fun a b => key a ≤ key b) (hl' : l'.Pairwise fun a b => key a ≤ key b) :
    l = l' := by
  refine List.Perm.eq_of_pairwise ?_ hl hl' hperm
  intro a b ha hb hab hba
  exact List.inj_on_of_nodup_map hkeys ha (hperm.mem_iff.mpr hb) (le_antisymm hab hba)

/-- Two lists with distinct keys sort alike exactly when one permutes the other. -/
theorem sortBy_eq_iff (hkeys : (l.map key).Nodup) : sortBy key l = sortBy key l' ↔ l.Perm l' := by
  constructor
  · intro h
    exact ((sortBy_perm key l).symm.trans (List.Perm.of_eq h)).trans (sortBy_perm key l')
  · intro h
    refine eq_of_perm_of_pairwise ((nodup_map_sortBy key).mpr hkeys) ?_ (sortBy_pairwise key l)
      (sortBy_pairwise key l')
    exact ((sortBy_perm key l).trans h).trans (sortBy_perm key l').symm

theorem sortBy_of_pairwise (h : l.Pairwise fun a b => key a ≤ key b) : sortBy key l = l :=
  h.insertionSort_eq

@[simp] theorem sortBy_sortBy : sortBy key (sortBy key l) = sortBy key l :=
  sortBy_of_pairwise (sortBy_pairwise key l)

theorem filter_sortBy (hkeys : (l.map key).Nodup) (p : α → Bool) :
    (sortBy key l).filter p = sortBy key (l.filter p) := by
  have hsub : ((l.filter p).map key).Nodup := hkeys.sublist (List.filter_sublist.map key)
  refine (eq_of_perm_of_pairwise ((nodup_map_sortBy key).mpr hsub) ?_ (sortBy_pairwise key _) ?_).symm
  · exact (sortBy_perm key _).trans ((sortBy_perm key l).filter p).symm
  · exact (sortBy_pairwise key l).filter p

/-- `$by_key{$k}` -/
def findBy (key : α → κ) (l : List α) (k : κ) : Option α := l.find? fun a => key a = k

theorem mem_of_findBy {k : κ} {a : α} (h : findBy key l k = some a) : a ∈ l ∧ key a = k := by
  have hkey := List.find?_some h
  exact ⟨List.mem_of_find?_eq_some h, of_decide_eq_true hkey⟩

theorem findBy_isSome {a : α} (ha : a ∈ l) : ∃ b, findBy key l (key a) = some b := by
  rw [← Option.isSome_iff_exists, findBy, List.find?_isSome]
  exact ⟨a, ha, decide_eq_true rfl⟩

theorem findBy_eq_some (hkeys : (l.map key).Nodup) {k : κ} {a : α} :
    findBy key l k = some a ↔ a ∈ l ∧ key a = k := by
  refine ⟨mem_of_findBy, ?_⟩
  intro h
  obtain ⟨b, hb⟩ := @findBy_isSome _ _ _ key _ _ h.1
  obtain ⟨hmem, hkey⟩ := mem_of_findBy hb
  rw [← h.2, hb, List.inj_on_of_nodup_map hkeys hmem h.1 hkey]

theorem findBy_perm (hkeys : (l.map key).Nodup) (hperm : l.Perm l') (k : κ) :
    findBy key l k = findBy key l' k := by
  apply Option.ext
  intro a
  rw [findBy_eq_some hkeys, findBy_eq_some ((hperm.map key).nodup_iff.mp hkeys), hperm.mem_iff]

end KeyedLists
