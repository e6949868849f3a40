import Mathlib.Data.List.DropRight
import Mathlib.Data.List.Forall2
import Mathlib.Data.String.Basic
import Mathlib.Tactic

/-!
# Perl scalars as text

A scalar is the text it stringifies to and `undef` is `none`. The module follows
the regular-expression and number rules the validators rest on. An anchored
pattern `^(...)$` also matches before one final line feed, `\d` accepts every
Unicode decimal digit, a digit string below `2^64` is an exact integer and a
larger one is the nearest double, which prints with fifteen significant digits.
-/

namespace Perl

def dieIf (bad : Bool) (message : String) : Except String Unit :=
  if bad then .error message else .ok ()

@[simp] theorem dieIf_eq_ok {bad : Bool} {message : String} {u : Unit} :
    dieIf bad message = .ok u ↔ bad = false := by
  cases bad <;> simp [dieIf]

@[simp] theorem bind_eq_ok {ε α β : Type} {x : Except ε α} {f : α → Except ε β} {r : β} :
    (x >>= f) = .ok r ↔ ∃ a, x = .ok a ∧ f a = .ok r := by
  cases x <;> simp [bind, Except.bind]

theorem bind_unit_eq_ok {ε β : Type} {x : Except ε Unit} {f : Unit → Except ε β} {r : β} :
    (x >>= f) = .ok r ↔ x = .ok () ∧ f () = .ok r := by
  cases x <;> simp [bind, Except.bind]

theorem exists_unit {P : Unit → Prop} : (∃ u, P u) ↔ P () :=
  ⟨fun ⟨_, h⟩ => h, fun h => ⟨(), h⟩⟩

@[simp] theorem pure_eq_ok {ε α : Type} {a r : α} :
    (pure a : Except ε α) = .ok r ↔ a = r := by
  simp [pure, Except.pure]

/-- The loop `for my $x (@list) { ... }` over a body that may die. -/
def forEach {ε α : Type} (list : List α) (step : α → Except ε Unit) : Except ε Unit :=
  match list with
  | [] => .ok ()
  | a :: rest => do
    step a
    forEach rest step

@[simp] theorem forEach_eq_ok {ε α : Type} {list : List α} {step : α → Except ε Unit}
    {u : Unit} : forEach list step = .ok u ↔ ∀ a ∈ list, step a = .ok () := by
  induction list with
  | nil => simp [forEach]
  | cons a rest ih =>
    simp only [forEach, bind_eq_ok, ih, List.mem_cons, forall_eq_or_imp]
    exact ⟨fun ⟨_, h, hr⟩ => ⟨h, hr⟩, fun ⟨h, hr⟩ => ⟨(), h, hr⟩⟩

/-- A loop whose body also sees the rows that passed before it, latest first. -/
def forEachSeen {ε α : Type} (step : List α → α → Except ε Unit) (seen : List α) :
    List α → Except ε Unit
  | [] => .ok ()
  | a :: rest => do
    step seen a
    forEachSeen step (a :: seen) rest

/-- A body that checks a row alone and against each earlier row makes the loop order-free. -/
theorem forEachSeen_eq_ok {ε α : Type} {step : List α → α → Except ε Unit} {R : α → α → Prop}
    (hstep : ∀ seen a, step seen a = .ok () ↔ step [] a = .ok () ∧ ∀ b ∈ seen, R b a)
    {list : List α} : ∀ {seen : List α}, forEachSeen step seen list = .ok () ↔
      (∀ a ∈ list, step [] a = .ok ()) ∧ list.Pairwise R ∧ ∀ b ∈ seen, ∀ a ∈ list, R b a := by
  induction list with
  | nil =>
    intro seen
    simp [forEachSeen]
  | cons a rest ih =>
    intro seen
    simp only [forEachSeen, bind_eq_ok, exists_const, ih, hstep seen a, List.mem_cons,
      forall_eq_or_imp, List.pairwise_cons]
    constructor
    · intro h
      obtain ⟨⟨ha, hseen⟩, hrest, hpair, harest, hseenrest⟩ := h
      exact ⟨⟨ha, hrest⟩, ⟨harest, hpair⟩, fun b hb => ⟨hseen b hb, hseenrest b hb⟩⟩
    · intro h
      obtain ⟨⟨ha, hrest⟩, ⟨harest, hpair⟩, hseen⟩ := h
      exact ⟨⟨ha, fun b hb => (hseen b hb).1⟩, hrest, hpair, harest, fun b hb => (hseen b hb).2⟩

/-- A loop whose body also checks each row against something fixed. -/
theorem forEachSeen_and {ε α : Type} {step step' : List α → α → Except ε Unit} {Q : α → Prop}
    (hstep : ∀ seen a, step' seen a = .ok () ↔ step seen a = .ok () ∧ Q a) {list : List α} :
    ∀ {seen : List α}, forEachSeen step' seen list = .ok () ↔
      forEachSeen step seen list = .ok () ∧ ∀ a ∈ list, Q a := by
  induction list with
  | nil =>
    intro seen
    simp [forEachSeen]
  | cons a rest ih =>
    intro seen
    simp only [forEachSeen, bind_unit_eq_ok, hstep, ih, List.mem_cons, forall_eq_or_imp]
    constructor
    · intro h
      exact ⟨⟨h.1.1, h.2.1⟩, h.1.2, h.2.2⟩
    · intro h
      exact ⟨⟨h.1.1, h.2.1⟩, h.1.2, h.2.2⟩

/-- A loop that turns rows into records and remembers the keys of the earlier records. -/
def mapSeen {ε α β κ : Type} (key : β → κ) (step : List κ → α → Except ε β) (seen : List κ) :
    List α → Except ε (List β)
  | [] => .ok []
  | a :: rest => do
    let b ← step seen a
    let bs ← mapSeen key step (key b :: seen) rest
    return b :: bs

theorem mapSeen_eq_ok {ε α β κ : Type} {key : β → κ} {step : List κ → α → Except ε β}
    {R : κ → κ → Prop}
    (hstep : ∀ seen a b, step seen a = .ok b ↔ step [] a = .ok b ∧ ∀ k ∈ seen, R k (key b))
    {list : List α} : ∀ {seen : List κ} {bs : List β}, mapSeen key step seen list = .ok bs ↔
      List.Forall₂ (fun a b => step [] a = .ok b) list bs ∧ (bs.map key).Pairwise R ∧
        ∀ k ∈ seen, ∀ b ∈ bs, R k (key b) := by
  induction list with
  | nil =>
    intro seen bs
    simp only [mapSeen, Except.ok.injEq, List.forall₂_nil_left_iff]
    constructor
    · intro h
      subst h
      simp
    · intro h
      exact h.1.symm
  | cons a rest ih =>
    intro seen bs
    simp only [mapSeen, bind_eq_ok, pure_eq_ok, hstep seen a, ih]
    constructor
    · intro h
      obtain ⟨b, ⟨hb, hseen⟩, bs, ⟨hall, hpair, hrest⟩, rfl⟩ := h
      simp only [List.mem_cons, forall_eq_or_imp] at hrest
      refine ⟨.cons hb hall, ?_, ?_⟩
      · rw [List.map_cons, List.pairwise_cons]
        refine ⟨?_, hpair⟩
        intro k hk
        obtain ⟨c, hc, rfl⟩ := List.mem_map.mp hk
        exact hrest.1 c hc
      · intro k hk c hc
        rcases List.mem_cons.mp hc with rfl | hc
        · exact hseen k hk
        · exact hrest.2 k hk c hc
    · intro h
      obtain ⟨hall, hpair, hseen⟩ := h
      cases hall with
      | cons hb hall =>
        rename_i b bs
        rw [List.map_cons, List.pairwise_cons] at hpair
        refine ⟨b, ⟨hb, fun k hk => hseen k hk b (by simp)⟩, bs, ⟨hall, hpair.2, ?_⟩, rfl⟩
        intro k hk c hc
        rcases List.mem_cons.mp hk with rfl | hk
        · exact hpair.1 _ (List.mem_map_of_mem hc)
        · exact hseen k hk c (by simp [hc])

theorem mem_intercalate {α : Type} {sep : List α} {ls : List (List α)} {a : α}
    (h : a ∈ sep.intercalate ls) : a ∈ sep ∨ ∃ l ∈ ls, a ∈ l := by
  induction ls with
  | nil => simp at h
  | cons l ls ih =>
    by_cases hls : ls = []
    · subst hls
      exact Or.inr ⟨l, by simp, by simpa using h⟩
    · rw [List.intercalate_cons_of_ne_nil hls, List.mem_append, List.mem_append] at h
      rcases h with (h | h) | h
      · exact Or.inr ⟨l, by simp, h⟩
      · exact Or.inl h
      · obtain hs | ⟨m, hm, ham⟩ := ih h
        · exact Or.inl hs
        · exact Or.inr ⟨m, by simp [hm], ham⟩

/-! ## Patterns -/

/-- What an anchored pattern `^(...)$` has to match: a final line feed is not part of it. -/
def body (s : String) : String :=
  if s.toList.getLast? = some '\n' then String.ofList s.toList.dropLast else s

def EndsInNewline (s : String) : Prop := s.toList.getLast? = some '\n'

instance (s : String) : Decidable (EndsInNewline s) := by
  unfold EndsInNewline
  infer_instance

theorem body_eq_self {s : String} (h : ¬ EndsInNewline s) : body s = s := by
  simp only [body, EndsInNewline] at h ⊢
  rw [if_neg h]

theorem body_ne_self {s : String} (h : EndsInNewline s) : body s ≠ s := by
  intro hs
  have hlen := congrArg (fun t => t.toList.length) hs
  simp only [body, EndsInNewline] at h hlen
  rw [if_pos h, String.toList_ofList, List.length_dropLast] at hlen
  have hpos : s.toList ≠ [] := by
    intro hnil
    simp [hnil] at h
  have := List.length_pos_iff.mpr hpos
  omega

theorem toList_of_endsInNewline {s : String} (h : EndsInNewline s) :
    s.toList = (body s).toList ++ ['\n'] := by
  obtain ⟨init, hs⟩ := List.getLast?_eq_some_iff.mp h
  have hb : body s = String.ofList init := by
    simp only [body, EndsInNewline] at h ⊢
    rw [if_pos h, hs, List.dropLast_concat]
  rw [hb, String.toList_ofList, hs]

/-- A whole string matched by `[...]+`. -/
def plus (p : Char → Bool) (s : String) : Bool := s.toList ≠ [] && s.toList.all p

theorem plus_iff {p : Char → Bool} {s : String} :
    plus p s = true ↔ s.toList ≠ [] ∧ ∀ c ∈ s.toList, p c = true := by
  simp [plus]

/-- A whole string matched by `[...]{n}`. -/
def exactly (n : Nat) (p : Char → Bool) (s : String) : Bool :=
  s.toList.length = n && s.toList.all p

theorem exactly_iff {n : Nat} {p : Char → Bool} {s : String} :
    exactly n p s = true ↔ s.toList.length = n ∧ ∀ c ∈ s.toList, p c = true := by
  simp [exactly]

theorem not_endsInNewline_of_all {p : Char → Bool} {s : String} (hp : p '\n' = false)
    (h : ∀ c ∈ s.toList, p c = true) : ¬ EndsInNewline s := by
  intro hn
  have := h '\n' (List.mem_of_getLast? hn)
  simp [hp] at this

/-- Characters of a string whose pattern part satisfies `p`, with its possible final line feed. -/
theorem mem_of_body {p : Char → Bool} {s : String} (h : ∀ c ∈ (body s).toList, p c = true)
    {c : Char} (hc : c ∈ s.toList) : p c = true ∨ c = '\n' := by
  by_cases hn : EndsInNewline s
  · rw [toList_of_endsInNewline hn, List.mem_append, List.mem_singleton] at hc
    exact hc.imp_left (h c)
  · rw [body_eq_self hn] at h
    exact Or.inl (h c hc)

/-- Truth of a scalar: `undef`, the empty string and `0` are false. -/
def truthy (value : Option String) : Bool := value.getD "" ≠ "" && value.getD "" ≠ "0"

/-- A defined scalar matched by `^(?:a|b|...)$`. -/
def isOneOf (words : List String) (value : Option String) : Bool :=
  match value with
  | none => false
  | some s => body s ∈ words

def isWord (c : Char) : Bool := c.isAlphanum || c == '_'

def isLowerHex (c : Char) : Bool := c.isDigit || ('a' ≤ c && c ≤ 'f')

/-- `\s` on text without the Latin-1 spaces, whose class depends on the internal encoding. -/
def isSpace (c : Char) : Bool :=
  c ∈ [' ', '\t', '\n', '\x0b', '\x0c', '\r'] ||
    (c.toNat ∈ [0x1680, 0x2028, 0x2029, 0x202f, 0x205f, 0x3000] ||
      (0x2000 ≤ c.toNat && c.toNat ≤ 0x200a))

/-- `uc`, on text that a pattern restricts to ASCII letters. -/
def uc (s : String) : String := String.ofList (s.toList.map Char.toUpper)

/-- `lc` of an ASCII text. -/
def lc (s : String) : String := String.ofList (s.toList.map Char.toLower)

@[simp] theorem toList_uc (s : String) : (uc s).toList = s.toList.map Char.toUpper := by
  simp [uc]

theorem toUpper_ascii {c : Char} (h : c.toNat < 128) : c.toUpper.toNat < 128 := by
  rw [← Char.ofNat_toNat c]
  generalize c.toNat = n at h
  interval_cases n <;> decide

theorem uc_endsInNewline {s : String} (h : EndsInNewline s) : EndsInNewline (uc s) := by
  rw [EndsInNewline] at h ⊢
  rw [toList_uc, List.getLast?_map, h]
  decide

/-- `s/^\s+|\s+$//g`. -/
def trim (s : String) : String :=
  String.ofList ((s.toList.dropWhile isSpace).rdropWhile isSpace)

@[simp] theorem toList_trim (s : String) :
    (trim s).toList = (s.toList.dropWhile isSpace).rdropWhile isSpace := by
  simp [trim]

theorem trim_eq_self {s : String} (h : ∀ c ∈ s.toList, isSpace c = false) : trim s = s := by
  have hd : s.toList.dropWhile isSpace = s.toList := by
    cases hs : s.toList with
    | nil => rfl
    | cons c cs => simp [h c (by simp [hs])]
  have hr : s.toList.rdropWhile isSpace = s.toList := by
    rw [List.rdropWhile_eq_self_iff]
    intro hne
    simp [h _ (List.getLast_mem hne)]
  rw [← String.toList_inj, toList_trim, hd, hr]

theorem trim_not_endsInNewline (s : String) : ¬ EndsInNewline (trim s) := by
  intro h
  have hne : (s.toList.dropWhile isSpace).rdropWhile isSpace ≠ [] := by
    intro hnil
    simp [EndsInNewline, hnil] at h
  have hlast := List.rdropWhile_last_not isSpace (s.toList.dropWhile isSpace) hne
  rw [EndsInNewline, toList_trim, List.getLast?_eq_some_getLast hne, Option.some.injEq] at h
  exact hlast (by rw [h]; decide)

theorem trim_of_endsInNewline {s : String} (h : EndsInNewline s)
    (hb : ∀ c ∈ (body s).toList, isSpace c = false) (hne : (body s).toList ≠ []) :
    trim s = body s := by
  have hs := toList_of_endsInNewline h
  have hd : s.toList.dropWhile isSpace = s.toList := by
    rw [hs]
    cases hl : (body s).toList with
    | nil => exact (hne hl).elim
    | cons c cs => simp [hb c (by simp [hl])]
  have hr : ((body s).toList ++ ['\n']).rdropWhile isSpace = (body s).toList := by
    rw [List.rdropWhile_concat_pos _ _ _ (by decide), List.rdropWhile_eq_self_iff]
    intro hne'
    simp [hb _ (List.getLast_mem hne')]
  rw [← String.toList_inj, toList_trim, hd, hs, hr]

/-- `split(/c/, $s)` for a one-character separator: trailing empty fields are dropped. -/
def splitOn (c : Char) (s : String) : List String :=
  ((s.toList.splitOn c).map String.ofList).rdropWhile (· = "")

/-- Splitting undoes `join`, up to the trailing empty fields. -/
theorem splitOn_intercalate {c : Char} {list : List String} (h : ∀ s ∈ list, c ∉ s.toList) :
    splitOn c (String.intercalate (String.singleton c) list) = list.rdropWhile (· = "") := by
  cases list with
  | nil => simp [splitOn]
  | cons a rest =>
    have hsep : ∀ l ∈ (a :: rest).map String.toList, c ∉ l := by
      intro l hl
      obtain ⟨s, hs, rfl⟩ := List.mem_map.mp hl
      exact h s hs
    have hjoin := List.splitOn_intercalate c hsep (by simp)
    rw [splitOn, String.toList_intercalate, String.toList_singleton, hjoin, List.map_map]
    congr 1
    conv_rhs => rw [← List.map_id (a :: rest)]
    exact List.map_congr_left fun s _ => by simp

/-! ## Numbers -/

/-- First code points of the decimal digit ranges beyond ASCII (general category `Nd`). -/
def unicodeZeros : List Nat :=
  [0x660, 0x6f0, 0x7c0, 0x966, 0x9e6, 0xa66, 0xae6, 0xb66, 0xbe6, 0xc66, 0xce6, 0xd66, 0xde6,
    0xe50, 0xed0, 0xf20, 0x1040, 0x1090, 0x17e0, 0x1810, 0x1946, 0x19d0, 0x1a80, 0x1a90, 0x1b50,
    0x1bb0, 0x1c40, 0x1c50, 0xa620, 0xa8d0, 0xa900, 0xa9d0, 0xa9f0, 0xaa50, 0xabf0, 0xff10,
    0x104a0, 0x10d30, 0x11066, 0x110f0, 0x11136, 0x111d0, 0x112f0, 0x11450, 0x114d0, 0x11650,
    0x116c0, 0x11730, 0x118e0, 0x11950, 0x11c50, 0x11d50, 0x11da0, 0x11f50, 0x16a60, 0x16ac0,
    0x16b50, 0x1d7ce, 0x1d7d8, 0x1d7e2, 0x1d7ec, 0x1d7f6, 0x1e140, 0x1e2f0, 0x1e4f0, 0x1e950,
    0x1fbf0]

/-- `\d`. -/
def isDigit (c : Char) : Bool :=
  c.isDigit || unicodeZeros.any fun z => z ≤ c.toNat && c.toNat < z + 10

theorem isDigit_of_latin1 {c : Char} (h : isDigit c = true) (hc : c.toNat < 256) :
    c.isDigit = true := by
  rcases Bool.or_eq_true_iff.mp h with h | h
  · exact h
  · obtain ⟨z, hz, hzc⟩ := List.any_eq_true.mp h
    have hall : ∀ z ∈ unicodeZeros, 256 ≤ z := by decide
    have := hall z hz
    simp only [Bool.and_eq_true, decide_eq_true_eq] at hzc
    omega

/-- `/^\d+$/`. -/
def isDigits (s : String) : Bool := plus isDigit (body s)

inductive Num
  | int (n : Nat)
  | flt (n : Nat)
  | inf
deriving DecidableEq

def roundHalfEven (n d : Nat) : Nat :=
  if d < 2 * (n % d) ∨ (2 * (n % d) = d ∧ n / d % 2 = 1) then n / d + 1 else n / d

/-- Nearest double of an integer of at least 53 bits. -/
def toDouble (n : Nat) : Num :=
  let unit := 2 ^ (Nat.log2 n - 52)
  let rounded := roundHalfEven n unit * unit
  if rounded < 2 ^ 1024 then .flt rounded else .inf

/-- The number a digit string stands for: its leading ASCII digits. -/
def numify (s : String) : Num :=
  let n := Nat.ofDigitChars 10 (s.toList.takeWhile Char.isDigit) 0
  if n < 2 ^ 64 then .int n else toDouble n

/-- `%.15g` of an integral double of more than fifteen digits. -/
def scientific (n : Nat) : String :=
  let exponent := n.repr.length - 1
  let mantissa := roundHalfEven n (10 ^ (exponent - 14))
  let (mantissa, exponent) :=
    if mantissa = 10 ^ 15 then (10 ^ 14, exponent + 1) else (mantissa, exponent)
  let digits := mantissa.repr.toList.rdropWhile (· = '0')
  let point := if digits.length ≤ 1 then digits else digits.take 1 ++ '.' :: digits.drop 1
  String.ofList point ++ "e+" ++ exponent.repr

/-- How `int(...)` of a number prints. -/
def Num.text : Num → String
  | .int n => n.repr
  | .flt n => scientific n
  | .inf => "Inf"

def Num.lt : Num → Nat → Bool
  | .int n, k => n < k
  | .flt n, k => n < k
  | .inf, _ => false

def Num.gt : Num → Nat → Bool
  | .int n, k => k < n
  | .flt n, k => k < n
  | .inf, _ => true

/-- Truth of `$x % $k`; the remainder of infinity is NaN, which is true. -/
def Num.hasRemainder : Num → Nat → Bool
  | .int n, k => n % k ≠ 0
  | .flt n, k => n % k ≠ 0
  | .inf, _ => true

/-- Value of a number no larger than a bound below `2^64`. -/
def Num.value : Num → Nat
  | .int n => n
  | .flt n => n
  | .inf => 0

/-- A decimal numeral without superfluous leading zeros. -/
def IsNumeral (s : String) : Prop := s = "0" ∨ s.toList.head? ≠ some '0'

instance (s : String) : Decidable (IsNumeral s) := by
  unfold IsNumeral
  infer_instance

theorem isDigit_of_ascii {c : Char} (h : c.isDigit = true) : isDigit c = true := by
  simp [isDigit, h]

theorem repr_all_isDigit (n : Nat) : ∀ c ∈ n.repr.toList, c.isDigit = true := by
  intro c hc
  rw [Nat.toList_repr] at hc
  exact Nat.isDigit_of_mem_toDigits (by decide) (by decide) hc

theorem isDigits_repr (n : Nat) : isDigits n.repr = true := by
  have hall := repr_all_isDigit n
  have hnl : ¬ EndsInNewline n.repr := not_endsInNewline_of_all (by decide) hall
  rw [isDigits, body_eq_self hnl, plus_iff]
  refine ⟨?_, fun c hc => isDigit_of_ascii (hall c hc)⟩
  rw [Nat.toList_repr]
  exact Nat.toDigits_ne_nil

theorem takeWhile_isDigit {l : List Char} (h : ∀ c ∈ l, c.isDigit = true) :
    l.takeWhile Char.isDigit = l := by
  rwa [List.takeWhile_eq_self_iff]

theorem numify_repr {n : Nat} (hn : n < 2 ^ 64) : numify n.repr = .int n := by
  simp only [numify]
  rw [takeWhile_isDigit (repr_all_isDigit n), Nat.toList_repr, Nat.ofDigitChars_ten_toDigits,
    if_pos hn]

theorem repr_isNumeral (n : Nat) : IsNumeral n.repr := by
  rcases Nat.eq_zero_or_pos n with rfl | hpos
  · exact Or.inl (by decide)
  · right
    rw [Nat.toList_repr]
    induction n using Nat.strong_induction_on with
    | _ n ih =>
      rcases Nat.lt_or_ge n 10 with hlt | hge
      · rw [Nat.toDigits_of_lt_base hlt]
        interval_cases n <;> decide
      · rw [Nat.toDigits_of_base_le (by decide) hge, List.head?_append]
        have hrec := ih (n / 10) (by omega) (by omega)
        cases hd : (Nat.toDigits 10 (n / 10)).head? with
        | none => exact absurd (List.head?_eq_none_iff.mp hd) Nat.toDigits_ne_nil
        | some c => simpa [hd] using hrec

theorem ofDigitChars_pos {l : List Char} (hd : ∀ c ∈ l, c.isDigit = true) (hne : l ≠ [])
    (h0 : l.head? ≠ some '0') : 0 < Nat.ofDigitChars 10 l 0 := by
  cases l with
  | nil => exact (hne rfl).elim
  | cons c cs =>
    have hc := hd c (by simp)
    have hpos : 0 < c.toNat - '0'.toNat := by
      have hc0 : c ≠ '0' := by simpa using h0
      have hge : '0'.toNat ≤ c.toNat := by
        simp only [Char.isDigit, Bool.and_eq_true, decide_eq_true_eq] at hc
        exact hc.1
      have hne' : c.toNat ≠ '0'.toNat := fun he => hc0 (Char.toNat_inj.mp he)
      omega
    rw [Nat.ofDigitChars_cons, Nat.ofDigitChars_eq_ofDigitChars_zero]
    have : 0 < 10 ^ cs.length * (10 * 0 + (c.toNat - '0'.toNat)) := by positivity
    omega

theorem isDigit_toNat {c : Char} (h : c.isDigit = true) : 48 ≤ c.toNat ∧ c.toNat ≤ 57 := by
  simp only [Char.isDigit, Bool.and_eq_true, decide_eq_true_eq] at h
  exact h

theorem toDigits_ofDigitChars {l : List Char} (hd : ∀ c ∈ l, c.isDigit = true) (hne : l ≠ [])
    (h0 : l = ['0'] ∨ l.head? ≠ some '0') : Nat.toDigits 10 (Nat.ofDigitChars 10 l 0) = l := by
  induction l using List.reverseRecOn with
  | nil => exact (hne rfl).elim
  | append_singleton init c ih =>
    have hc := isDigit_toNat (hd c (by simp))
    have hdigit : Nat.toDigits 10 (c.toNat - '0'.toNat) = [c] := by
      have hlt : c.toNat - '0'.toNat < 10 := by
        have : '0'.toNat = 48 := rfl
        omega
      rw [Nat.toDigits_of_lt_base hlt]
      have : (c.toNat - '0'.toNat).digitChar = c := by
        obtain ⟨hlo, hhi⟩ := hc
        rw [← Char.ofNat_toNat c]
        generalize c.toNat = n at hlo hhi
        interval_cases n <;> rfl
      rw [this]
    rw [Nat.ofDigitChars_append, Nat.ofDigitChars_cons, Nat.ofDigitChars_nil]
    cases hi : init with
    | nil => simpa [Nat.ofDigitChars] using hdigit
    | cons a rest =>
      rw [← hi]
      have hinit : init ≠ [] := by simp [hi]
      have hhead : init.head? ≠ some '0' := by
        rcases h0 with h0 | h0
        · simp [hi] at h0
        · rwa [List.head?_append_of_ne_nil _ hinit] at h0
      have hdi : ∀ c ∈ init, c.isDigit = true := fun c hc => hd c (by simp [hc])
      rw [← Nat.toDigits_append_toDigits (by decide) (ofDigitChars_pos hdi hinit hhead)
        (by have : '0'.toNat = 48 := rfl; omega), ih hdi hinit (Or.inr hhead), hdigit]

theorem scientific_not_isDigits (n : Nat) : isDigits (scientific n) = false := by
  have hmem : 'e' ∈ (scientific n).toList := by simp [scientific]
  have hbody : 'e' ∈ (body (scientific n)).toList := by
    by_cases hn : EndsInNewline (scientific n)
    · rw [toList_of_endsInNewline hn] at hmem
      simpa using hmem
    · rwa [body_eq_self hn]
  rw [isDigits, Bool.eq_false_iff]
  intro h
  exact absurd ((plus_iff.mp h).2 'e' hbody) (by decide)

/-- Beyond 64 bits the printed number is no digit string any more. -/
theorem text_toDouble_not_isDigits (n : Nat) : isDigits (toDouble n).text = false := by
  simp only [toDouble]
  split_ifs
  · exact scientific_not_isDigits _
  · decide

theorem numify_of_digits {s : String} (hd : ∀ c ∈ s.toList, c.isDigit = true) :
    numify s = if Nat.ofDigitChars 10 s.toList 0 < 2 ^ 64
      then .int (Nat.ofDigitChars 10 s.toList 0) else toDouble (Nat.ofDigitChars 10 s.toList 0) := by
  rw [numify, takeWhile_isDigit hd]

/-- `int` leaves exactly the plain numerals of unsigned 64-bit integers as they are. -/
theorem text_numify_eq_self_iff {s : String} (hd : ∀ c ∈ s.toList, c.isDigit = true)
    (hne : s.toList ≠ []) :
    (numify s).text = s ↔ IsNumeral s ∧ Nat.ofDigitChars 10 s.toList 0 < 2 ^ 64 := by
  have hdigits : isDigits s = true := by
    rw [isDigits, body_eq_self (not_endsInNewline_of_all (by decide) hd), plus_iff]
    exact ⟨hne, fun c hc => isDigit_of_ascii (hd c hc)⟩
  rw [numify_of_digits hd]
  split_ifs with hlt
  · constructor
    · intro h
      refine ⟨?_, hlt⟩
      rw [← h]
      exact repr_isNumeral _
    · rintro ⟨hnum, -⟩
      have hlist : s.toList = ['0'] ∨ s.toList.head? ≠ some '0' := by
        rcases hnum with rfl | h
        · exact Or.inl (by decide)
        · exact Or.inr h
      rw [Num.text, ← String.toList_inj, Nat.toList_repr, toDigits_ofDigitChars hd hne hlist]
  · constructor
    · intro h
      have hbad := text_toDouble_not_isDigits (Nat.ofDigitChars 10 s.toList 0)
      rw [h, hdigits] at hbad
      exact absurd hbad (by decide)
    · exact fun h => absurd h.2 hlt

theorem toDouble_ge {k n m : Nat} (hk : 52 ≤ k) (hn : 2 ^ k ≤ n) (h : toDouble n = .flt m) :
    2 ^ k ≤ m := by
  have hn0 : n ≠ 0 := by
    have : 0 < 2 ^ k := by positivity
    omega
  have hlog : k ≤ Nat.log2 n := (Nat.le_log2 hn0).mpr hn
  have hpow : 2 ^ Nat.log2 n ≤ n := Nat.log2_self_le hn0
  simp only [toDouble] at h
  split_ifs at h
  obtain rfl := Num.flt.inj h
  set unit := 2 ^ (Nat.log2 n - 52) with hunit
  have hq : 2 ^ 52 ≤ n / unit := by
    rw [Nat.le_div_iff_mul_le (by positivity), hunit, ← pow_add]
    rwa [Nat.add_sub_cancel' (by omega)]
  have hr : 2 ^ 52 ≤ roundHalfEven n unit := by
    simp only [roundHalfEven]
    split_ifs <;> omega
  calc 2 ^ k ≤ 2 ^ Nat.log2 n := Nat.pow_le_pow_right (by decide) hlog
    _ = 2 ^ 52 * unit := by rw [hunit, ← pow_add, Nat.add_sub_cancel' (by omega)]
    _ ≤ roundHalfEven n unit * unit := Nat.mul_le_mul_right _ hr

theorem numify_cases (s : String) :
    (∃ n < 2 ^ 64, numify s = .int n) ∨ (∃ m ≥ 2 ^ 64, numify s = .flt m) ∨ numify s = .inf := by
  simp only [numify]
  split_ifs with hlt
  · exact Or.inl ⟨_, hlt, rfl⟩
  · right
    cases hd : toDouble (Nat.ofDigitChars 10 (s.toList.takeWhile Char.isDigit) 0) with
    | int n =>
      simp only [toDouble] at hd
      split_ifs at hd
    | flt m => exact Or.inl ⟨m, toDouble_ge (by decide) (not_lt.mp hlt) hd, rfl⟩
    | inf => exact Or.inr rfl

/-- A number within a bound below `2^64` is an exact integer. -/
theorem numify_of_not_gt {s : String} {k : Nat} (hk : k < 2 ^ 64) (h : (numify s).gt k = false) :
    ∃ n ≤ k, numify s = .int n := by
  rcases numify_cases s with ⟨n, -, hn⟩ | ⟨m, hm, hn⟩ | hn
  · refine ⟨n, ?_, hn⟩
    simpa [hn, Num.gt] using h
  · rw [hn] at h
    simp only [Num.gt, decide_eq_false_iff_not, not_lt] at h
    omega
  · simp [hn, Num.gt] at h

theorem isDigit_ascii {c : Char} (h : c.isDigit = true) : c.toNat < 128 := by
  have := isDigit_toNat h
  omega

theorem repr_ascii (n : Nat) : ∀ c ∈ n.repr.toList, c.toNat < 128 :=
  fun c hc => isDigit_ascii (repr_all_isDigit n c hc)

theorem scientific_ascii (n : Nat) : ∀ c ∈ (scientific n).toList, c.toNat < 128 := by
  have hdigits : ∀ m : Nat, ∀ c ∈ m.repr.toList.rdropWhile (· = '0'), c.toNat < 128 :=
    fun m c hc => repr_ascii m c ((List.rdropWhile_prefix _ _).subset hc)
  intro c hc
  simp only [scientific] at hc
  generalize (if _ = 10 ^ 15 then _ else _ : Nat × Nat) = p at hc
  simp only [String.toList_append, String.toList_ofList, List.mem_append] at hc
  rcases hc with (hc | hc) | hc
  · split_ifs at hc
    · exact hdigits _ c hc
    · rcases List.mem_append.mp hc with hc | hc
      · exact hdigits _ c (List.mem_of_mem_take hc)
      · rcases List.mem_cons.mp hc with rfl | hc
        · decide
        · exact hdigits _ c (List.mem_of_mem_drop hc)
  · have : c = 'e' ∨ c = '+' := by simpa using hc
    rcases this with rfl | rfl <;> decide
  · exact repr_ascii _ c hc

/-- A bound on the characters of a given text is a computation over the text alone. -/
theorem toNat_lt_of_all {l : List Char} {n : Nat} (h : l.all (fun c => c.toNat < n) = true) :
    ∀ c ∈ l, c.toNat < n := by
  simpa using h

theorem Num.text_ascii (x : Num) : ∀ c ∈ x.text.toList, c.toNat < 128 := by
  cases x with
  | int n => exact repr_ascii n
  | flt n => exact scientific_ascii n
  | inf => exact toNat_lt_of_all (by decide)

end Perl
