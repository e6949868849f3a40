import Mathlib.Data.List.Forall2
import SharedLvmThin.PerlJson

/-!
# Perl data up to the order of its arrays

Two values shuffle into each other when every array of one, at any depth, is a permutation of
the array in the same place of the other. A reader of records carries a shuffle over when it
reads scalars and arrays only.
-/

namespace Perl
namespace Value

mutual

/-- `w` is `v` with its arrays permuted, at any depth. -/
def Shuffled : Value → Value → Prop
  | undef, w => w = undef
  | str s, w => w = str s
  | num s, w => w = num s
  | bool b, w => w = bool b
  | otherRef, w => w = otherRef
  | array items, w => ∃ items' reordered, w = array items' ∧ items'.Perm reordered ∧
      ShuffledItems items reordered
  | hash fields, w => ∃ fields', w = hash fields' ∧ ShuffledFields fields fields'

def ShuffledItems : List Value → List Value → Prop
  | [], list => list = []
  | v :: rest, list => ∃ w rest', list = w :: rest' ∧ Shuffled v w ∧ ShuffledItems rest rest'

def ShuffledFields : List (String × Value) → List (String × Value) → Prop
  | [], list => list = []
  | (name, v) :: rest, list =>
    ∃ w rest', list = (name, w) :: rest' ∧ Shuffled v w ∧ ShuffledFields rest rest'

end

theorem shuffledItems_iff {l l' : List Value} : ShuffledItems l l' ↔ List.Forall₂ Shuffled l l' := by
  induction l generalizing l' with
  | nil => simp [ShuffledItems]
  | cons v rest ih => simp only [ShuffledItems, List.forall₂_cons_left_iff, ih]; grind

mutual

theorem Shuffled.refl : ∀ v : Value, Shuffled v v
  | undef => rfl
  | str _ => rfl
  | num _ => rfl
  | bool _ => rfl
  | otherRef => rfl
  | array items => ⟨items, items, rfl, .refl items, ShuffledItems.refl items⟩
  | hash fields => ⟨fields, rfl, ShuffledFields.refl fields⟩

theorem ShuffledItems.refl : ∀ l : List Value, ShuffledItems l l
  | [] => rfl
  | v :: rest => ⟨v, rest, rfl, Shuffled.refl v, ShuffledItems.refl rest⟩

theorem ShuffledFields.refl : ∀ l : List (String × Value), ShuffledFields l l
  | [] => rfl
  | (_, v) :: rest => ⟨v, rest, rfl, Shuffled.refl v, ShuffledFields.refl rest⟩

end

/-- Items that correspond one by one still do after one side is permuted. -/
theorem forall₂_of_perm {α β : Type} {R : α → β → Prop} {l l₁ : List α} {l' : List β}
    (hperm : l.Perm l₁) (h : List.Forall₂ R l l') : ∃ l₁', List.Forall₂ R l₁ l₁' ∧ l'.Perm l₁' := by
  have hcomp : Relation.Comp List.Perm (List.Forall₂ R) l₁ l' := ⟨l, hperm.symm, h⟩
  rw [← List.forall₂_comp_perm_eq_perm_comp_forall₂] at hcomp
  obtain ⟨l₁', hforall, hperm'⟩ := hcomp
  exact ⟨l₁', hforall, hperm'.symm⟩

mutual

theorem Shuffled.symm : ∀ {v w : Value}, Shuffled v w → Shuffled w v
  | undef, _, h => by cases h; rfl
  | str _, _, h => by cases h; rfl
  | num _, _, h => by cases h; rfl
  | bool _, _, h => by cases h; rfl
  | otherRef, _, h => by cases h; rfl
  | array items, _, h => by
    obtain ⟨items', reordered, rfl, hperm, hitems⟩ := h
    have hback := shuffledItems_iff.mp (ShuffledItems.symm hitems)
    obtain ⟨reordered', hforall, hperm'⟩ := forall₂_of_perm hperm.symm hback
    exact ⟨items, reordered', rfl, hperm', shuffledItems_iff.mpr hforall⟩
  | hash fields, _, h => by
    obtain ⟨fields', rfl, hfields⟩ := h
    exact ⟨fields, rfl, ShuffledFields.symm hfields⟩

theorem ShuffledItems.symm : ∀ {l l' : List Value}, ShuffledItems l l' → ShuffledItems l' l
  | [], _, h => by cases h; rfl
  | v :: rest, _, h => by
    obtain ⟨w, rest', rfl, hhead, htail⟩ := h
    exact ⟨v, rest, rfl, Shuffled.symm hhead, ShuffledItems.symm htail⟩

theorem ShuffledFields.symm :
    ∀ {l l' : List (String × Value)}, ShuffledFields l l' → ShuffledFields l' l
  | [], _, h => by cases h; rfl
  | (_, v) :: rest, _, h => by
    obtain ⟨w, rest', rfl, hhead, htail⟩ := h
    exact ⟨v, rest, rfl, Shuffled.symm hhead, ShuffledFields.symm htail⟩

end

variable {v w : Value}

/-! ## Fields -/

theorem keys_shuffled : ∀ {l l' : List (String × Value)}, ShuffledFields l l' →
    l.map Prod.fst = l'.map Prod.fst
  | [], _, h => by cases h; rfl
  | (name, v) :: rest, _, h => by
    obtain ⟨w, rest', rfl, -, htail⟩ := h
    simp [keys_shuffled htail]

theorem lookup_shuffled (name : String) : ∀ {l l' : List (String × Value)}, ShuffledFields l l' →
    Option.Rel Shuffled (l.lookup name) (l'.lookup name)
  | [], _, h => by
    cases h
    exact .none
  | (key, v) :: rest, _, h => by
    obtain ⟨w, rest', rfl, hhead, htail⟩ := h
    simp only [List.lookup_cons]
    cases name == key with
    | true => exact .some hhead
    | false => exact lookup_shuffled name htail

/-- Outside hashes and arrays a shuffle changes nothing. -/
theorem Shuffled.inv (h : Shuffled v w) :
    (∃ fields fields', v = hash fields ∧ w = hash fields' ∧ ShuffledFields fields fields') ∨
      (∃ items items', v = array items ∧ w = array items') ∨ v = w := by
  cases v with
  | hash fields =>
    obtain ⟨fields', rfl, hfields⟩ := h
    exact Or.inl ⟨fields, fields', rfl, rfl, hfields⟩
  | array items =>
    obtain ⟨items', reordered, rfl, -⟩ := h
    exact Or.inr (Or.inl ⟨items, items', rfl, rfl⟩)
  | undef => exact Or.inr (Or.inr (Eq.symm h))
  | str s => exact Or.inr (Or.inr (Eq.symm h))
  | num s => exact Or.inr (Or.inr (Eq.symm h))
  | bool b => exact Or.inr (Or.inr (Eq.symm h))
  | otherRef => exact Or.inr (Or.inr (Eq.symm h))

theorem Shuffled.fields (h : Shuffled v w) : ShuffledFields v.fields w.fields := by
  obtain ⟨fields, fields', rfl, rfl, hfields⟩ | ⟨items, items', rfl, rfl⟩ | rfl := h.inv
  · exact hfields
  · rfl
  · exact ShuffledFields.refl _

theorem Shuffled.isHash (h : Shuffled v w) : v.isHash = w.isHash := by
  obtain ⟨fields, fields', rfl, rfl, -⟩ | ⟨items, items', rfl, rfl⟩ | rfl := h.inv <;> rfl

theorem Shuffled.get (h : Shuffled v w) (name : String) : Shuffled (v.get name) (w.get name) := by
  have hlookup := lookup_shuffled name h.fields
  unfold Value.get
  generalize v.fields.lookup name = found at hlookup ⊢
  generalize w.fields.lookup name = found' at hlookup ⊢
  cases hlookup with
  | none => rfl
  | some hvalue => exact hvalue

theorem Shuffled.has (h : Shuffled v w) (name : String) : v.has name = w.has name := by
  have hlookup := lookup_shuffled name h.fields
  unfold Value.has
  generalize v.fields.lookup name = found at hlookup ⊢
  generalize w.fields.lookup name = found' at hlookup ⊢
  cases hlookup <;> rfl

/-! ## Readers -/

/-- A hash whose sorted keys join like the given names. -/
def hasFields (v : Value) (names : List String) : Bool :=
  v.isHash && "|".intercalate ((v.fields.map Prod.fst).insertionSort (· ≤ ·)) =
    "|".intercalate (names.insertionSort (· ≤ ·))

def readScalar : Value → Option Scalar
  | str text => some (.string text)
  | num text => if h : plus isNumeral text = true then some (.number ⟨text, h⟩) else none
  | bool value => some (.boolean value)
  | _ => none

def readArray {α : Type} (reader : Value → Option α) : Value → Option (List α)
  | array items => items.mapM reader
  | _ => none

theorem Shuffled.hasFields (h : Shuffled v w) (names : List String) :
    v.hasFields names = w.hasFields names := by
  simp only [Value.hasFields, h.isHash, keys_shuffled h.fields]

theorem Shuffled.readScalar (h : Shuffled v w) : v.readScalar = w.readScalar := by
  obtain ⟨fields, fields', rfl, rfl, -⟩ | ⟨items, items', rfl, rfl⟩ | rfl := h.inv <;> rfl

theorem mapM_eq_some_iff {α β : Type} {f : α → Option β} {l : List α} {l' : List β} :
    l.mapM f = some l' ↔ List.Forall₂ (fun a b => f a = some b) l l' := by
  induction l generalizing l' with
  | nil => simp [eq_comm]
  | cons a rest ih =>
    simp only [List.mapM_cons, List.forall₂_cons_left_iff, Option.bind_eq_bind,
      Option.bind_eq_some_iff, ih]
    grind

/-- What a reader takes from related items is related item by item. -/
theorem forall₂_read {α β : Type} {f : α → Option β} {R : α → α → Prop} {S : β → β → Prop}
    (hread : ∀ a a' b, R a a' → f a = some b → ∃ b', f a' = some b' ∧ S b b') {l l' : List α}
    (h : List.Forall₂ R l l') {m : List β} (hm : List.Forall₂ (fun a b => f a = some b) l m) :
    ∃ m', List.Forall₂ (fun a b => f a = some b) l' m' ∧ List.Forall₂ S m m' := by
  induction h generalizing m with
  | nil =>
    cases hm
    exact ⟨[], .nil, .nil⟩
  | cons hhead htail ih =>
    cases hm with
    | cons hb hm =>
      obtain ⟨b', hb', hS⟩ := hread _ _ _ hhead hb
      obtain ⟨m', hm', hSm⟩ := ih hm
      exact ⟨b' :: m', .cons hb' hm', .cons hS hSm⟩

/-- The items of a shuffled array are read in another order, each as its counterpart. -/
theorem Shuffled.readArray {α : Type} {reader : Value → Option α} {S : α → α → Prop}
    (hread : ∀ a a' b, Shuffled a a' → reader a = some b → ∃ b', reader a' = some b' ∧ S b b')
    (h : Shuffled v w) {l : List α} (hl : v.readArray reader = some l) :
    ∃ l', w.readArray reader = some l' ∧ ∃ m, List.Forall₂ S l m ∧ m.Perm l' := by
  cases v with
  | array items =>
    obtain ⟨items', reordered, rfl, hperm, hitems⟩ := h
    obtain ⟨m, hm, hS⟩ := forall₂_read hread (shuffledItems_iff.mp hitems) (mapM_eq_some_iff.mp hl)
    obtain ⟨l', hl', hperm'⟩ := forall₂_of_perm hperm.symm hm
    exact ⟨l', mapM_eq_some_iff.mpr hl', m, hS, hperm'⟩
  | _ => cases hl

theorem Shuffled.readArray_perm {α : Type} {reader : Value → Option α}
    (hread : ∀ a a', Shuffled a a' → reader a = reader a') (h : Shuffled v w) {l : List α}
    (hl : v.readArray reader = some l) : ∃ l', w.readArray reader = some l' ∧ l.Perm l' := by
  obtain ⟨l', hl', m, hm, hperm⟩ := h.readArray (S := Eq)
    (fun a a' b haa' hb => ⟨b, (hread a a' haa').symm.trans hb, rfl⟩) hl
  rw [List.forall₂_eq_eq_eq] at hm
  exact ⟨l', hl', hm ▸ hperm⟩

end Value
end Perl
