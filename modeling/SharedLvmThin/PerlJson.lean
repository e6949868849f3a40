import SharedLvmThin.PerlData
import SharedLvmThin.Sha256

/-!
# Canonical JSON determines the data

Records are compared and hashed through their canonical JSON. The text of a value made of
scalars, arrays and hashes with sorted names can be read back in one way only, so
that the comparison of two texts is the comparison of the data.
-/

namespace Perl
namespace Value

/-! ## Quoted strings -/

def hexValue (c : Char) : Nat := if c.isDigit then c.toNat - 48 else c.toNat - 87

/-- The first character of the rest of a quoted string; `none` at its end. -/
def unescape : List Char → Option (Char × List Char)
  | '\\' :: 'n' :: rest => some ('\n', rest)
  | '\\' :: 'r' :: rest => some ('\r', rest)
  | '\\' :: 't' :: rest => some ('\t', rest)
  | '\\' :: 'f' :: rest => some ('\x0c', rest)
  | '\\' :: 'b' :: rest => some ('\x08', rest)
  | '\\' :: 'u' :: '0' :: '0' :: a :: b :: rest =>
    some (Char.ofNat (16 * hexValue a + hexValue b), rest)
  | '\\' :: c :: rest => some (c, rest)
  | '"' :: _ => none
  | c :: rest => some (c, rest)
  | [] => none

theorem hexValue_hexDigits : ∀ n < 32,
    16 * hexValue (Nat.digitChar (n / 16 % 16)) + hexValue (Nat.digitChar (n % 16)) = n := by
  decide

theorem unescape_escapeChar (c : Char) (rest : List Char) :
    unescape (escapeChar c ++ rest) = some (c, rest) := by
  unfold escapeChar
  split_ifs with h1 h2 h3 h4 h5 h6 h7 h8
  · simp [unescape, h1]
  · simp [unescape, h2]
  · simp [unescape, h3]
  · simp [unescape, h4]
  · simp [unescape, h5]
  · simp [unescape, h6]
  · simp [unescape, h7]
  · simp only [hexDigits, List.cons_append, List.nil_append, unescape, hexValue_hexDigits _ h8,
      Char.ofNat_toNat]
  · rw [unescape.eq_def]
    split <;> simp_all

theorem unescape_end (rest : List Char) : unescape ('"' :: rest) = none := by
  simp [unescape]

/-- A quoted string ends at its first bare quote. -/
theorem escaped_inj {s t : List Char} {r r' : List Char}
    (h : s.flatMap escapeChar ++ '"' :: r = t.flatMap escapeChar ++ '"' :: r') :
    s = t ∧ r = r' := by
  induction s generalizing t with
  | nil =>
    cases t with
    | nil => simpa using h
    | cons d t =>
      have hread := congrArg unescape h
      simp [unescape_escapeChar, unescape_end] at hread
  | cons c s ih =>
    cases t with
    | nil =>
      have hread := congrArg unescape h
      simp [unescape_escapeChar, unescape_end] at hread
    | cons d t =>
      have hread := congrArg unescape h
      simp only [List.flatMap_cons, List.append_assoc, unescape_escapeChar, Option.some.injEq,
        Prod.mk.injEq] at hread
      obtain ⟨rfl, hrest⟩ := hread
      obtain ⟨rfl, rfl⟩ := ih hrest
      exact ⟨rfl, rfl⟩

theorem quote_inj {s t : String} {r r' : List Char}
    (h : (quote s).toList ++ r = (quote t).toList ++ r') : s = t ∧ r = r' := by
  simp [quote] at h
  obtain ⟨hs, hr⟩ := escaped_inj h
  exact ⟨String.toList_inj.mp hs, hr⟩

/-! ## Values -/

def isNumeral (c : Char) : Bool := c.isDigit || c ∈ ['+', '-', '.', 'e', 'E']

/-- Data without foreign references, its names sorted. -/
inductive Plain : Value → Prop
  | undef : Plain undef
  | bool (b : Bool) : Plain (bool b)
  | str (s : String) : Plain (str s)
  | num {s : String} (h : plus isNumeral s = true) : Plain (num s)
  | array {items : List Value} (h : ∀ v ∈ items, Plain v) : Plain (array items)
  | hash {fields : List (String × Value)} (hsorted : fields.Pairwise fun a b => a.1 < b.1)
      (h : ∀ field ∈ fields, Plain field.2) : Plain (hash fields)

theorem Plain.record {fields : List (String × Value)}
    (hsorted : (fields.map Prod.fst).Pairwise (· < ·)) (h : ∀ field ∈ fields, Plain field.2) :
    Plain (Value.hash fields) :=
  .hash (List.pairwise_map.mp hsorted) h

/-- The characters of the canonical text. -/
def chars (v : Value) : List Char := ((canonical v).toOption.getD "").toList

def fieldChars (field : String × Value) : List Char :=
  (quote field.1).toList ++ ':' :: chars field.2

theorem chars_of_canonical {v : Value} {text : String} (h : canonical v = .ok text) :
    chars v = text.toList := by
  simp [chars, h, Except.toOption]

theorem canonicalItems_eq {items : List Value} (h : ∀ v ∈ items, ∃ t, canonical v = .ok t) :
    ∃ texts, canonicalItems items = .ok texts ∧ texts.map String.toList = items.map chars := by
  induction items with
  | nil => exact ⟨[], rfl, rfl⟩
  | cons v items ih =>
    obtain ⟨t, ht⟩ := h v (by simp)
    obtain ⟨texts, htexts, hchars⟩ := ih fun w hw => h w (by simp [hw])
    refine ⟨t :: texts, ?_, by simp [chars_of_canonical ht, hchars]⟩
    simp [canonicalItems, ht, htexts]

theorem canonicalFields_eq {fields : List (String × Value)}
    (h : ∀ field ∈ fields, ∃ t, canonical field.2 = .ok t) :
    ∃ texts, canonicalFields fields = .ok texts ∧ texts.map Prod.fst = fields.map Prod.fst ∧
      (texts.map fun field => (quote field.1 ++ ":" ++ field.2).toList) = fields.map fieldChars := by
  induction fields with
  | nil => exact ⟨[], rfl, rfl, rfl⟩
  | cons field fields ih =>
    obtain ⟨name, v⟩ := field
    obtain ⟨t, ht⟩ := h (name, v) (by simp)
    obtain ⟨texts, htexts, hnames, hchars⟩ := ih fun w hw => h w (by simp [hw])
    refine ⟨(name, t) :: texts, ?_, by simp [hnames], ?_⟩
    · simp [canonicalFields, ht, htexts]
    · simp [fieldChars, chars_of_canonical ht, ← hchars]

theorem canonical_array {items : List Value} (h : ∀ v ∈ items, ∃ t, canonical v = .ok t) :
    ∃ t, canonical (array items) = .ok t ∧
      t.toList = '[' :: ([','].intercalate (items.map chars) ++ [']']) := by
  obtain ⟨texts, htexts, hchars⟩ := canonicalItems_eq h
  refine ⟨_, by simp only [canonical, htexts]; rfl, ?_⟩
  simp [String.toList_intercalate, hchars]

theorem canonical_hash {fields : List (String × Value)}
    (hsorted : fields.Pairwise fun a b => a.1 < b.1)
    (h : ∀ field ∈ fields, ∃ t, canonical field.2 = .ok t) :
    ∃ t, canonical (hash fields) = .ok t ∧
      t.toList = '\x7b' :: ([','].intercalate (fields.map fieldChars) ++ ['\x7d']) := by
  obtain ⟨texts, htexts, hnames, hchars⟩ := canonicalFields_eq h
  have hpair : texts.Pairwise fun a b => a.1 ≤ b.1 := by
    have hle : (texts.map Prod.fst).Pairwise (· ≤ ·) := by
      rw [hnames, List.pairwise_map]
      exact hsorted.imp le_of_lt
    exact List.pairwise_map.mp hle
  refine ⟨_, by simp only [canonical, htexts]; rfl, ?_⟩
  rw [hpair.insertionSort_eq]
  simp [String.toList_intercalate, ← hchars, Function.comp_def]

theorem Plain.canonical_ok {v : Value} (h : Plain v) : ∃ t, canonical v = .ok t := by
  induction h with
  | undef => exact ⟨_, by rw [canonical]⟩
  | bool _ => exact ⟨_, by rw [canonical]⟩
  | str s => exact ⟨_, by rw [canonical]⟩
  | num _ => exact ⟨_, by rw [canonical]⟩
  | array _ ih =>
    obtain ⟨t, ht, -⟩ := canonical_array ih
    exact ⟨t, ht⟩
  | hash hsorted _ ih =>
    obtain ⟨t, ht, -⟩ := canonical_hash hsorted ih
    exact ⟨t, ht⟩

theorem chars_undef : chars undef = "null".toList :=
  chars_of_canonical (by rw [canonical])

theorem chars_bool (b : Bool) : chars (bool b) = (if b then "true" else "false").toList :=
  chars_of_canonical (by rw [canonical])

theorem chars_str (s : String) : chars (str s) = (quote s).toList :=
  chars_of_canonical (by rw [canonical])

theorem chars_num (s : String) : chars (num s) = s.toList :=
  chars_of_canonical (by rw [canonical])

theorem chars_array {items : List Value} (h : ∀ v ∈ items, Plain v) :
    chars (array items) = '[' :: ([','].intercalate (items.map chars) ++ [']']) := by
  obtain ⟨t, ht, hchars⟩ := canonical_array fun v hv => (h v hv).canonical_ok
  rw [chars_of_canonical ht, hchars]

theorem chars_hash {fields : List (String × Value)}
    (hsorted : fields.Pairwise fun a b => a.1 < b.1) (h : ∀ field ∈ fields, Plain field.2) :
    chars (hash fields) = '\x7b' :: ([','].intercalate (fields.map fieldChars) ++ ['\x7d']) := by
  obtain ⟨t, ht, hchars⟩ := canonical_hash hsorted fun field hf => (h field hf).canonical_ok
  rw [chars_of_canonical ht, hchars]

/-! ## Reading back -/

/-- A numeral cannot go on. -/
def Stops (rest : List Char) : Prop := ∀ c ∈ rest.head?, isNumeral c = false

theorem stops_cons {c : Char} (rest : List Char) (h : isNumeral c = false) : Stops (c :: rest) := by
  intro d hd
  obtain rfl : c = d := by simpa using hd
  exact h

theorem takeWhile_numeral {s r : List Char} (hs : ∀ c ∈ s, isNumeral c = true) (hr : Stops r) :
    (s ++ r).takeWhile isNumeral = s := by
  rw [List.takeWhile_append_of_pos hs]
  cases r with
  | nil => simp
  | cons c r => simp [hr c (by simp)]

theorem numeral_inj {s t r r' : List Char} (hs : ∀ c ∈ s, isNumeral c = true)
    (ht : ∀ c ∈ t, isNumeral c = true) (hr : Stops r) (hr' : Stops r') (h : s ++ r = t ++ r') :
    s = t ∧ r = r' := by
  have hst : s = t := by rw [← takeWhile_numeral hs hr, h, takeWhile_numeral ht hr']
  subst hst
  exact ⟨rfl, List.append_cancel_left h⟩

section
variable {α : Type} {print : α → List Char} {P : α → Prop} {close : Char}

theorem intercalate_cons (a : α) (l : List α) :
    [','].intercalate ((a :: l).map print) = print a ++ l.flatMap fun b => ',' :: print b := by
  induction l generalizing a with
  | nil => simp
  | cons b l ih =>
    rw [List.map_cons, List.intercalate_cons_of_ne_nil (by simp), ih]
    simp

/-- Items that can be read back one at a time can be read back from a comma list. -/
def Reads (P : α → Prop) (print : α → List Char) (a : α) : Prop :=
  ∀ b r r', P b → Stops r → Stops r' → print a ++ r = print b ++ r' → a = b ∧ r = r'

theorem stops_tail (hclose : isNumeral close = false) (l : List α) (r : List Char) :
    Stops ((l.flatMap fun b => ',' :: print b) ++ close :: r) := by
  cases l with
  | nil => exact stops_cons _ hclose
  | cons b l => exact stops_cons _ (by decide)

theorem tail_inj (hcomma : close ≠ ',') (hclose : isNumeral close = false) {l l' : List α}
    {r r' : List Char} (hl : ∀ a ∈ l, Reads P print a) (hl' : ∀ b ∈ l', P b)
    (h : (l.flatMap fun b => ',' :: print b) ++ close :: r =
      (l'.flatMap fun b => ',' :: print b) ++ close :: r') : l = l' ∧ r = r' := by
  induction l generalizing l' with
  | nil =>
    cases l' with
    | nil => simpa using h
    | cons b l' => simp [hcomma] at h
  | cons a l ih =>
    cases l' with
    | nil => simp [hcomma.symm] at h
    | cons b l' =>
      simp only [List.flatMap_cons, List.cons_append, List.append_assoc, List.cons.injEq,
        true_and] at h
      obtain ⟨rfl, hrest⟩ := hl a (by simp) b _ _ (hl' b (by simp)) (stops_tail hclose l r)
        (stops_tail hclose l' r') h
      obtain ⟨rfl, rfl⟩ := ih (fun c hc => hl c (by simp [hc])) (fun c hc => hl' c (by simp [hc]))
        hrest
      exact ⟨rfl, rfl⟩

theorem list_inj (hcomma : close ≠ ',') (hclose : isNumeral close = false)
    (hstart : ∀ a, P a → ∀ r, print a ≠ close :: r ∧ print a ≠ []) {l l' : List α} {r r' : List Char}
    (hP : ∀ a ∈ l, P a) (hl : ∀ a ∈ l, Reads P print a) (hl' : ∀ b ∈ l', P b)
    (h : [','].intercalate (l.map print) ++ close :: r =
      [','].intercalate (l'.map print) ++ close :: r') : l = l' ∧ r = r' := by
  have hne : ∀ a, P a → ∀ s r, close :: r ≠ print a ++ s := by
    intro a ha s r heq
    obtain hnil | ⟨t, ht, -⟩ := List.cons_eq_append_iff.mp heq
    · exact (hstart a ha []).2 hnil.1
    · exact (hstart a ha t).1 ht
  cases l with
  | nil =>
    cases l' with
    | nil => simpa using h
    | cons b l' =>
      rw [intercalate_cons, List.append_assoc] at h
      exact absurd h (hne b (hl' b (by simp)) _ _)
  | cons a l =>
    cases l' with
    | nil =>
      rw [intercalate_cons, List.append_assoc] at h
      exact absurd h.symm (hne a (hP a (by simp)) _ _)
    | cons b l' =>
      rw [intercalate_cons, intercalate_cons, List.append_assoc, List.append_assoc] at h
      obtain ⟨rfl, hrest⟩ := hl a (by simp) b _ _ (hl' b (by simp)) (stops_tail hclose l r)
        (stops_tail hclose l' r') h
      obtain ⟨rfl, rfl⟩ := tail_inj hcomma hclose (fun c hc => hl c (by simp [hc]))
        (fun c hc => hl' c (by simp [hc])) hrest
      exact ⟨rfl, rfl⟩

end

/-- How the text of a plain value begins. -/
def leads (v : Value) (c : Char) : Prop :=
  match v with
  | undef => c = 'n'
  | bool b => c = if b then 't' else 'f'
  | str _ => c = '"'
  | num _ => isNumeral c = true
  | array _ => c = '['
  | hash _ => c = '\x7b'
  | _ => False

theorem Plain.leads {v : Value} (h : Plain v) : ∃ c rest, chars v = c :: rest ∧ leads v c := by
  cases h with
  | undef => exact ⟨'n', _, chars_undef, rfl⟩
  | bool b =>
    rw [chars_bool]
    cases b with
    | true => exact ⟨'t', _, rfl, rfl⟩
    | false => exact ⟨'f', _, rfl, rfl⟩
  | str s =>
    refine ⟨'"', s.toList.flatMap escapeChar ++ ['"'], ?_, rfl⟩
    rw [chars_str]
    simp [quote]
  | num h =>
    obtain ⟨hne, hall⟩ := plus_iff.mp h
    obtain ⟨c, rest, hs⟩ := List.exists_cons_of_ne_nil hne
    exact ⟨c, rest, by rw [chars_num, hs], hall c (by simp [hs])⟩
  | array h => exact ⟨_, _, chars_array h, rfl⟩
  | hash hsorted h => exact ⟨_, _, chars_hash hsorted h, rfl⟩

theorem leads_ne_close {v : Value} {c : Char} (h : leads v c) : c ≠ ']' ∧ c ≠ '\x7d' := by
  cases v with
  | bool b => cases b <;> simp_all [leads]
  | num s => constructor <;> (intro heq; rw [heq] at h; simp [leads, isNumeral] at h)
  | _ => simp_all [leads]

theorem Plain.starts {v : Value} (h : Plain v) {close : Char}
    (hclose : close = ']' ∨ close = '\x7d') (r : List Char) :
    chars v ≠ close :: r ∧ chars v ≠ [] := by
  obtain ⟨c, rest, hchars, hlead⟩ := h.leads
  rw [hchars]
  refine ⟨?_, by simp⟩
  intro heq
  obtain rfl : c = close := by simpa using (List.cons.inj heq).1
  obtain ⟨hbracket, hbrace⟩ := leads_ne_close hlead
  exact hclose.elim hbracket hbrace

def kind : Value → Nat
  | undef => 0
  | bool b => if b then 1 else 2
  | str _ => 3
  | array _ => 4
  | hash _ => 5
  | num _ => 6
  | otherRef => 7

/-- The first character of a text tells the kind of the value. -/
def kindOf (c : Char) : Nat :=
  if c = 'n' then 0 else if c = 't' then 1 else if c = 'f' then 2 else if c = '"' then 3
  else if c = '[' then 4 else if c = '\x7b' then 5 else 6

theorem kindOf_numeral {c : Char} (h : isNumeral c = true) : kindOf c = 6 := by
  unfold kindOf
  split_ifs <;> subst_vars <;> first | rfl | exact absurd h (by decide)

theorem kindOf_of_leads {v : Value} {c : Char} (h : leads v c) : kindOf c = kind v := by
  cases v with
  | num s => exact kindOf_numeral h
  | bool b => cases b <;> subst h <;> rfl
  | otherRef => cases h
  | _ => subst h; rfl

inductive SameKind : Value → Value → Prop
  | undef : SameKind undef undef
  | bool (b : Bool) : SameKind (bool b) (bool b)
  | str (s t : String) : SameKind (str s) (str t)
  | num (s t : String) : SameKind (num s) (num t)
  | array (items others : List Value) : SameKind (array items) (array others)
  | hash (fields others : List (String × Value)) : SameKind (hash fields) (hash others)

theorem sameKind_of_leads {v w : Value} {c : Char} (hv : leads v c) (hw : leads w c) :
    SameKind v w := by
  have hkind : kind v = kind w := (kindOf_of_leads hv).symm.trans (kindOf_of_leads hw)
  cases v <;> cases w
  case undef.undef => exact .undef
  case bool.bool b b' =>
    obtain rfl : b = b' := by
      cases b <;> cases b' <;> simp_all [kind]
    exact .bool b
  case str.str s t => exact .str s t
  case num.num s t => exact .num s t
  case array.array items others => exact .array items others
  case hash.hash fields others => exact .hash fields others
  case otherRef.otherRef => cases hv
  all_goals
    exfalso
    revert hkind
    simp only [kind]
    try split
    all_goals decide

theorem sameKind_of_chars {v w : Value} (hv : Plain v) (hw : Plain w) {r r' : List Char}
    (h : chars v ++ r = chars w ++ r') : SameKind v w := by
  obtain ⟨c, rest, hc, hlead⟩ := hv.leads
  obtain ⟨d, rest', hd, hlead'⟩ := hw.leads
  rw [hc, hd] at h
  obtain rfl : c = d := by simpa using (List.cons.inj h).1
  exact sameKind_of_leads hlead hlead'

theorem fieldChars_starts {field : String × Value} {close : Char} (hclose : close ≠ '"')
    (r : List Char) : fieldChars field ≠ close :: r ∧ fieldChars field ≠ [] := by
  constructor
  · intro heq
    simp only [fieldChars, quote, String.toList_append, List.append_assoc] at heq
    exact hclose (List.cons.inj heq).1.symm
  · simp [fieldChars, quote]

theorem reads_field {field : String × Value} (h : Reads Plain chars field.2) :
    Reads (fun f => Plain f.2) fieldChars field := by
  intro b r r' hb hr hr' heq
  simp only [fieldChars, List.append_assoc, List.cons_append] at heq
  obtain ⟨hname, hrest⟩ := quote_inj heq
  obtain ⟨hvalue, htail⟩ := h b.2 r r' hb hr hr' (by simpa using hrest)
  exact ⟨Prod.ext hname hvalue, htail⟩

/-- A plain value is read back from its text whatever follows. -/
theorem Plain.reads {v : Value} (h : Plain v) : Reads Plain chars v := by
  induction h with
  | undef =>
    intro w r r' hw hr hr' heq
    cases sameKind_of_chars .undef hw heq
    exact ⟨rfl, List.append_cancel_left heq⟩
  | bool b =>
    intro w r r' hw hr hr' heq
    cases sameKind_of_chars (.bool b) hw heq
    exact ⟨rfl, List.append_cancel_left heq⟩
  | str s =>
    intro w r r' hw hr hr' heq
    cases sameKind_of_chars (.str s) hw heq with
    | str s t =>
      rw [chars_str, chars_str] at heq
      obtain ⟨rfl, rfl⟩ := quote_inj heq
      exact ⟨rfl, rfl⟩
  | @num s hs =>
    intro w r r' hw hr hr' heq
    cases sameKind_of_chars (.num hs) hw heq with
    | num s t =>
      cases hw with
      | num ht =>
        rw [chars_num, chars_num] at heq
        obtain ⟨hst, rfl⟩ := numeral_inj (plus_iff.mp hs).2 (plus_iff.mp ht).2 hr hr' heq
        exact ⟨by rw [String.toList_inj.mp hst], rfl⟩
  | @array items hitems ih =>
    intro w r r' hw hr hr' heq
    cases sameKind_of_chars (.array hitems) hw heq with
    | array items others =>
      cases hw with
      | array hothers =>
        rw [chars_array hitems, chars_array hothers] at heq
        obtain ⟨rfl, rfl⟩ := list_inj (by decide) (by decide)
          (fun v hv => hv.starts (Or.inl rfl)) hitems ih hothers (by simpa using heq)
        exact ⟨rfl, rfl⟩
  | @hash fields hsorted hfields ih =>
    intro w r r' hw hr hr' heq
    cases sameKind_of_chars (.hash hsorted hfields) hw heq with
    | hash fields others =>
      cases hw with
      | hash hsorted' hothers =>
        rw [chars_hash hsorted hfields, chars_hash hsorted' hothers] at heq
        obtain ⟨rfl, rfl⟩ := list_inj (show '\x7d' ≠ ',' by decide) (by decide)
          (fun field _ => fieldChars_starts (by decide)) hfields
          (fun field hf => reads_field (ih field hf)) hothers (by simpa using heq)
        exact ⟨rfl, rfl⟩

theorem canonical_inj {v w : Value} (hv : Plain v) (hw : Plain w)
    (h : canonical v = canonical w) : v = w := by
  have hstops : Stops [] := by
    intro c hc
    simp at hc
  have hchars : chars v ++ [] = chars w ++ [] := by simp [chars, h]
  exact (hv.reads w [] [] hw hstops hstops hchars).1

/-! ## Byte texts -/

def isBytes (s : String) : Bool := s.toList.all fun c => c.toNat < 256

mutual

/-- Every string of the data is a byte string. -/
def narrow : Value → Bool
  | undef => true
  | str s => isBytes s
  | num s => isBytes s
  | bool _ => true
  | array items => narrowItems items
  | hash fields => narrowFields fields
  | otherRef => true

def narrowItems : List Value → Bool
  | [] => true
  | v :: rest => narrow v && narrowItems rest

def narrowFields : List (String × Value) → Bool
  | [] => true
  | (name, v) :: rest => isBytes name && narrow v && narrowFields rest

end

theorem isBytes_iff {s : String} : isBytes s = true ↔ ∀ c ∈ s.toList, c.toNat < 256 := by
  simp [isBytes]

theorem narrowItems_iff {items : List Value} :
    narrowItems items = true ↔ ∀ v ∈ items, narrow v = true := by
  induction items with
  | nil => simp [narrowItems]
  | cons v rest ih => simp [narrowItems, ih]

theorem narrowFields_iff {fields : List (String × Value)} : narrowFields fields = true ↔
    ∀ field ∈ fields, isBytes field.1 = true ∧ narrow field.2 = true := by
  induction fields with
  | nil => simp [narrowFields]
  | cons field rest ih =>
    obtain ⟨name, v⟩ := field
    simp [narrowFields, ih]

theorem escapeChar_bytes {c d : Char} (hc : c.toNat < 256) (hd : d ∈ escapeChar c) :
    d.toNat < 256 := by
  have hdigit : ∀ n < 16, (Nat.digitChar n).toNat < 256 := by decide
  have hhex : ∀ n, ∀ d ∈ hexDigits n, d.toNat < 256 := by
    intro n d hd
    simp only [hexDigits, List.mem_cons, List.not_mem_nil, or_false] at hd
    rcases hd with rfl | rfl
    · exact hdigit _ (Nat.mod_lt _ (by decide))
    · exact hdigit _ (Nat.mod_lt _ (by decide))
  have hcontrol : ∀ d ∈ ['\\', 'u', '0', '0'] ++ hexDigits c.toNat, d.toNat < 256 := by
    intro d hd
    have hlead : ∀ d ∈ ['\\', 'u', '0', '0'], d.toNat < 256 := toNat_lt_of_all (by decide)
    rcases List.mem_append.mp hd with hd | hd
    · exact hlead d hd
    · exact hhex _ d hd
  unfold escapeChar at hd
  split_ifs at hd
  case neg =>
    obtain rfl : d = c := by simpa using hd
    exact hc
  all_goals first
    | exact hcontrol d hd
    | exact toNat_lt_of_all (by decide) d hd

theorem quote_bytes {s : String} (h : isBytes s = true) : ∀ c ∈ (quote s).toList, c.toNat < 256 := by
  intro c hc
  simp only [quote, String.toList_append, String.toList_ofList, List.mem_append, List.mem_flatMap]
    at hc
  rcases hc with (hc | ⟨d, hd, hc⟩) | hc
  · obtain rfl : c = '"' := by simpa using hc
    decide
  · exact escapeChar_bytes (isBytes_iff.mp h d hd) hc
  · obtain rfl : c = '"' := by simpa using hc
    decide

theorem bytes_of_intercalate {ls : List (List Char)} (h : ∀ l ∈ ls, ∀ c ∈ l, c.toNat < 256) :
    ∀ c ∈ [','].intercalate ls, c.toNat < 256 := by
  intro c hc
  rcases mem_intercalate hc with hc | ⟨l, hl, hc⟩
  · obtain rfl : c = ',' := by simpa using hc
    decide
  · exact h l hl c hc

theorem Plain.bytes {v : Value} (h : Plain v) (hv : narrow v = true) :
    ∀ c ∈ chars v, c.toNat < 256 := by
  induction h with
  | undef =>
    rw [chars_undef]
    exact toNat_lt_of_all (by decide)
  | bool b =>
    rw [chars_bool]
    cases b <;> exact toNat_lt_of_all (by decide)
  | str s =>
    rw [chars_str]
    exact quote_bytes hv
  | num _ =>
    rw [chars_num]
    exact isBytes_iff.mp hv
  | array hitems ih =>
    intro c hc
    rw [chars_array hitems, List.mem_cons, List.mem_append] at hc
    rcases hc with rfl | hc | hc
    · decide
    · refine bytes_of_intercalate ?_ c hc
      intro l hl
      obtain ⟨w, hw, rfl⟩ := List.mem_map.mp hl
      exact ih w hw (narrowItems_iff.mp hv w hw)
    · obtain rfl : c = ']' := by simpa using hc
      decide
  | hash hsorted hfields ih =>
    intro c hc
    rw [chars_hash hsorted hfields, List.mem_cons, List.mem_append] at hc
    rcases hc with rfl | hc | hc
    · decide
    · refine bytes_of_intercalate ?_ c hc
      intro l hl d hd
      obtain ⟨field, hf, rfl⟩ := List.mem_map.mp hl
      obtain ⟨hname, hvalue⟩ := narrowFields_iff.mp hv field hf
      rw [fieldChars, List.mem_append, List.mem_cons] at hd
      rcases hd with hd | rfl | hd
      · exact quote_bytes hname d hd
      · decide
      · exact ih field hf hvalue d hd
    · obtain rfl : c = '\x7d' := by simpa using hc
      decide

mutual

/-- A bound on the length of the canonical text, every character escaped at its longest. -/
def bound : Value → Nat
  | undef => 4
  | str s => 6 * s.toList.length + 2
  | num s => s.toList.length
  | bool _ => 5
  | array items => boundItems items + 2
  | hash fields => boundFields fields + 2
  | otherRef => 0

def boundItems : List Value → Nat
  | [] => 0
  | v :: rest => bound v + 1 + boundItems rest

def boundFields : List (String × Value) → Nat
  | [] => 0
  | (name, v) :: rest => 6 * name.toList.length + bound v + 4 + boundFields rest

end

theorem boundItems_eq (items : List Value) :
    boundItems items = (items.map fun v => bound v + 1).sum := by
  induction items with
  | nil => rfl
  | cons v rest ih => simp [boundItems, ih]

theorem boundFields_eq (fields : List (String × Value)) :
    boundFields fields = (fields.map fun f => 6 * f.1.toList.length + bound f.2 + 4).sum := by
  induction fields with
  | nil => rfl
  | cons field rest ih =>
    obtain ⟨name, v⟩ := field
    simp [boundFields, ih]

theorem boundFields_append (fields others : List (String × Value)) :
    boundFields (fields ++ others) = boundFields fields + boundFields others := by
  simp [boundFields_eq]

theorem escapeChar_length (c : Char) : (escapeChar c).length ≤ 6 := by
  unfold escapeChar
  split_ifs <;> simp [hexDigits]

theorem quote_length (s : String) : (quote s).toList.length ≤ 6 * s.toList.length + 2 := by
  have hflat : (s.toList.flatMap escapeChar).length ≤ 6 * s.toList.length := by
    induction s.toList with
    | nil => simp
    | cons c rest ih =>
      have hc := escapeChar_length c
      simp only [List.flatMap_cons, List.length_append, List.length_cons]
      omega
  have hmark : "\"".toList.length = 1 := by decide
  simp only [quote, String.toList_append, String.toList_ofList, List.length_append, hmark]
  omega

theorem intercalate_length {α : Type} (print : α → List Char) (l : List α) :
    ([','].intercalate (l.map print)).length ≤ (l.map fun a => (print a).length + 1).sum := by
  cases l with
  | nil => simp
  | cons a l =>
    rw [intercalate_cons, List.length_append, List.length_flatMap]
    simp only [List.length_cons, List.map_cons, List.sum_cons]
    omega

theorem Plain.length_le_bound {v : Value} (h : Plain v) : (chars v).length ≤ bound v := by
  induction h with
  | undef =>
    rw [chars_undef]
    decide
  | bool b =>
    rw [chars_bool]
    cases b <;> decide
  | str s =>
    rw [chars_str]
    exact quote_length s
  | num _ =>
    rw [chars_num]
    exact le_rfl
  | @array items hitems ih =>
    have hsum : (items.map fun v => (chars v).length + 1).sum ≤
        (items.map fun v => bound v + 1).sum :=
      List.sum_le_sum fun v hv => Nat.add_le_add_right (ih v hv) 1
    have hlen := intercalate_length chars items
    rw [chars_array hitems, bound, boundItems_eq]
    simp only [List.length_cons, List.length_append, List.length_nil]
    omega
  | @hash fields hsorted hfields ih =>
    have hsum : (fields.map fun f => (fieldChars f).length + 1).sum ≤
        (fields.map fun f => 6 * f.1.toList.length + bound f.2 + 4).sum := by
      refine List.sum_le_sum fun f hf => ?_
      have hname := quote_length f.1
      have hvalue := ih f hf
      simp only [fieldChars, List.length_append, List.length_cons]
      omega
    have hlen := intercalate_length fieldChars fields
    rw [chars_hash hsorted hfields, bound, boundFields_eq]
    simp only [List.length_cons, List.length_append, List.length_nil]
    omega

/-- What the existence of a digest and the length of a text depend on. -/
def shape (v : Value) : Bool × Nat := (v.narrow, v.bound)

theorem shape_eq {v w : Value} : v.shape = w.shape ↔ v.narrow = w.narrow ∧ v.bound = w.bound :=
  Prod.mk.injEq _ _ _ _ ▸ Iff.rfl

theorem shape_array {items others : List Value}
    (h : List.Forall₂ (fun v w => v.shape = w.shape) items others) :
    (array items).shape = (array others).shape := by
  suffices hitems : narrowItems items = narrowItems others ∧ boundItems items = boundItems others by
    simp [shape_eq, narrow, bound, hitems]
  induction h with
  | nil => exact ⟨rfl, rfl⟩
  | cons hvw _ ih =>
    obtain ⟨hnarrow, hbound⟩ := shape_eq.mp hvw
    simp only [narrowItems, boundItems, hnarrow, hbound, ih.1, ih.2, and_self]

theorem shape_hash {fields others : List (String × Value)}
    (h : List.Forall₂ (fun a b => a.1 = b.1 ∧ a.2.shape = b.2.shape) fields others) :
    (hash fields).shape = (hash others).shape := by
  suffices hfields : narrowFields fields = narrowFields others ∧
      boundFields fields = boundFields others by
    simp [shape_eq, narrow, bound, hfields]
  induction h with
  | nil => exact ⟨rfl, rfl⟩
  | @cons a b _ _ hab _ ih =>
    obtain ⟨hname, hshape⟩ := hab
    obtain ⟨hnarrow, hbound⟩ := shape_eq.mp hshape
    obtain ⟨name, v⟩ := a
    obtain ⟨name', w⟩ := b
    simp only at hname hnarrow hbound
    simp only [narrowFields, boundFields, hname, hnarrow, hbound, ih.1, ih.2, and_self]

end Value

/-! ## Encodable data -/

/-- Data with a JSON form that determines it. -/
class Encodes (α : Type) where
  value : α → Value
  plain (a : α) : (value a).Plain
  inj (a b : α) : value a = value b → a = b

instance : Encodes String where
  value := .str
  plain := .str
  inj _ _ h := Value.str.inj h

instance {α : Type} [Encodes α] : Encodes (List α) where
  value l := .array (l.map Encodes.value)
  plain l := .array fun v hv => by
    obtain ⟨a, -, rfl⟩ := List.mem_map.mp hv
    exact Encodes.plain a
  inj _ _ h := List.map_injective_iff.mpr (fun a b hab => Encodes.inj a b hab) (Value.array.inj h)

/-- JSON data of any shape. -/
abbrev Json := {v : Value // v.Plain}

instance : Encodes Json := ⟨Subtype.val, Subtype.property, fun _ _ => Subtype.ext⟩

theorem one_numeral : plus Value.isNumeral "1" = true := by decide

inductive Scalar
  | string (text : String)
  | number (text : {text : String // plus Value.isNumeral text = true})
  | boolean (value : Bool)
deriving DecidableEq

namespace Scalar

/-- The text of a scalar in string context. -/
def text : Scalar → String
  | string text => text
  | number text => text.1
  | boolean value => if value then "1" else "0"

def isRef : Scalar → Bool
  | boolean _ => true
  | _ => false

def value : Scalar → Value
  | string text => .str text
  | number text => .num text.1
  | boolean value => .bool value

theorem plain (s : Scalar) : s.value.Plain := by
  cases s with
  | string text => exact .str text
  | number text => exact .num text.2
  | boolean value => exact .bool value

theorem inj {a b : Scalar} (h : a.value = b.value) : a = b := by
  cases a <;> cases b <;> simp_all [value, Subtype.ext_iff]

/-- `$v // ''` -/
def ofValue : Value → Scalar
  | .str text => string text
  | .num text => if h : plus Value.isNumeral text = true then number ⟨text, h⟩ else string text
  | .bool value => boolean value
  | v => string v.text

end Scalar

instance : Encodes Scalar := ⟨Scalar.value, Scalar.plain, fun _ _ => Scalar.inj⟩

/-- A hash from names to data, its names sorted. -/
structure Dict (α : Type) where
  fields : List (String × α)
  sorted : (fields.map Prod.fst).Pairwise (· < ·)

namespace Dict
variable {α : Type}

def keys (d : Dict α) : List String := d.fields.map Prod.fst

def get? (d : Dict α) (name : String) : Option α := d.fields.lookup name

theorem get?_eq_some {d : Dict α} {name : String} {a : α} :
    d.get? name = some a ↔ (name, a) ∈ d.fields := by
  have hnodup : (d.fields.map Prod.fst).Nodup := d.sorted.imp ne_of_lt
  rw [get?, List.lookup_eq_some_iff]
  constructor
  · intro h
    obtain ⟨before, after, heq, -⟩ := h
    rw [heq]
    simp
  · intro h
    obtain ⟨before, after, heq⟩ := List.append_of_mem h
    refine ⟨before, after, heq, ?_⟩
    intro field hfield
    rw [heq, List.map_append, List.nodup_append] at hnodup
    have hne := hnodup.2.2 field.1 (List.mem_map_of_mem hfield) name (by simp)
    simpa using hne.symm

end Dict

instance {α : Type} [Encodes α] : Encodes (Dict α) where
  value d := .hash (d.fields.map fun field => (field.1, Encodes.value field.2))
  plain d := by
    refine .record ?_ ?_
    · rw [List.map_map]
      exact d.sorted
    · intro field hfield
      obtain ⟨entry, -, rfl⟩ := List.mem_map.mp hfield
      exact Encodes.plain entry.2
  inj a b h := by
    have hfields : a.fields = b.fields := by
      refine List.map_injective_iff.mpr ?_ (Value.hash.inj h)
      intro x y hxy
      exact Prod.ext (Prod.mk.inj hxy).1 (Encodes.inj _ _ (Prod.mk.inj hxy).2)
    cases a
    cases b
    simp_all

/-- A field of a record that may be missing. -/
def optionalField {α : Type} [Encodes α] (name : String) : Option α → List (String × Value)
  | none => []
  | some a => [(name, Encodes.value a)]

section
variable {α : Type} [Encodes α]

@[simp] theorem value_inj {a b : α} : Encodes.value a = Encodes.value b ↔ a = b :=
  ⟨Encodes.inj a b, congrArg Encodes.value⟩

/-- `$JSON->encode($a) eq $JSON->encode($b)` -/
def same (a b : α) : Except String Bool := do
  let left ← (Encodes.value a).canonical
  let right ← (Encodes.value b).canonical
  return left == right

theorem same_eq_ok {a b : α} {answer : Bool} :
    same a b = .ok answer ↔ (answer = true ↔ a = b) := by
  obtain ⟨s, hs⟩ := (Encodes.plain a).canonical_ok
  obtain ⟨t, ht⟩ := (Encodes.plain b).canonical_ok
  have hst : s = t ↔ a = b := by
    constructor
    · intro h
      exact Encodes.inj a b (Value.canonical_inj (Encodes.plain a) (Encodes.plain b) (by rw [hs, ht, h]))
    · intro h
      subst h
      exact Except.ok.inj (hs.symm.trans ht)
  simp only [same, hs, ht, bind_eq_ok, pure_eq_ok, Except.ok.injEq, exists_eq_left']
  rw [← hst]
  cases answer <;> simp

theorem same_bind_eq_ok {β : Type} {a b : α} {next : Bool → Except String β} {r : β}
    (hnext : next false ≠ .ok r) : (same a b >>= next) = .ok r ↔ a = b ∧ next true = .ok r := by
  simp only [bind_eq_ok, same_eq_ok]
  constructor
  · intro h
    obtain ⟨answer, hanswer, hr⟩ := h
    cases answer with
    | false => exact absurd hr hnext
    | true => exact ⟨hanswer.mp rfl, hr⟩
  · intro h
    exact ⟨true, by simp [h.1], h.2⟩

/-- The bytes of a text, as `utf8::encode` leaves them. -/
def utf8 (text : String) : String :=
  String.ofList ((text.toList.flatMap String.utf8EncodeChar).map fun byte => Char.ofNat byte.toNat)

/-- `sha256_hex($JSON->encode($a))` -/
def jsonDigest (a : α) : Except String String := do
  let text ← (Encodes.value a).canonical
  Sha256.sha256Hex (utf8 text)

/-- `sha256_hex` of canonical JSON that was not encoded to bytes. -/
def textDigest (a : α) : Except String String := do
  let text ← (Encodes.value a).canonical
  Sha256.sha256Hex text

theorem utf8_latin1 (text : String) : ∀ c ∈ (utf8 text).toList, c.toNat < 256 := by
  intro c hc
  rw [utf8, String.toList_ofList, List.mem_map] at hc
  obtain ⟨byte, -, rfl⟩ := hc
  have hlt := byte.toNat_lt
  have hvalid : byte.toNat.isValidChar := Or.inl (by omega)
  rw [Char.ofNat, dif_pos hvalid]
  exact hlt

theorem textDigest_isOk {a : α} (h : (Encodes.value a).narrow = true) :
    ∃ digest, textDigest a = .ok digest := by
  obtain ⟨t, ht⟩ := (Encodes.plain a).canonical_ok
  have hbytes := (Encodes.plain a).bytes h
  rw [Value.chars_of_canonical ht] at hbytes
  obtain ⟨digest, hdigest⟩ := Sha256.sha256Hex_isOk hbytes
  exact ⟨digest, by simp [textDigest, ht, hdigest]⟩

theorem jsonDigest_isOk (a : α) : ∃ digest, jsonDigest a = .ok digest := by
  obtain ⟨t, ht⟩ := (Encodes.plain a).canonical_ok
  obtain ⟨digest, hdigest⟩ := Sha256.sha256Hex_isOk (utf8_latin1 t)
  exact ⟨digest, by simp [jsonDigest, ht, hdigest]⟩

/-- Data whose texts have the same length and are byte texts or not together. -/
def Alike (a b : α) : Prop := (Encodes.value a).shape = (Encodes.value b).shape

theorem Alike.list {l l' : List α} (h : List.Forall₂ Alike l l') : Alike l l' := by
  refine Value.shape_array ?_
  induction h with
  | nil => exact .nil
  | cons hab _ ih => exact .cons hab ih

/-- A lower-case SHA-256 text. -/
def IsDigest (digest : String) : Prop :=
  digest.toList.length = 64 ∧ ∀ c ∈ digest.toList, isLowerHex c = true

theorem textDigest_isDigest {a : α} {digest : String} (h : textDigest a = .ok digest) :
    IsDigest digest := by
  simp only [textDigest, bind_eq_ok] at h
  obtain ⟨text, -, hdigest⟩ := h
  exact Sha256.sha256Hex_spec hdigest

theorem jsonDigest_isDigest {a : α} {digest : String} (h : jsonDigest a = .ok digest) :
    IsDigest digest := by
  simp only [jsonDigest, bind_eq_ok] at h
  obtain ⟨text, -, hdigest⟩ := h
  exact Sha256.sha256Hex_spec hdigest

theorem IsDigest.alike {digest other : String} (h : IsDigest digest) (h' : IsDigest other) :
    Alike digest other := by
  have hhex : ∀ c : Char, isLowerHex c = true → c.toNat < 256 := by
    intro c hc
    simp only [isLowerHex, Char.isDigit, Bool.or_eq_true, Bool.and_eq_true, decide_eq_true_eq,
      UInt32.le_iff_toNat_le, Char.le_def] at hc
    have hnat : c.toNat = c.val.toNat := rfl
    rcases hc with hc | hc
    · have hle : c.val.toNat ≤ 57 := hc.2
      omega
    · have hle : c.val.toNat ≤ 102 := hc.2
      omega
  have hbytes : ∀ {d : String}, IsDigest d → Value.isBytes d = true :=
    fun hd => Value.isBytes_iff.mpr fun c hc => hhex c (hd.2 c hc)
  refine Value.shape_eq.mpr ⟨?_, ?_⟩
  · simp [Encodes.value, Value.narrow, hbytes h, hbytes h']
  · simp only [Encodes.value, Value.bound, h.1, h'.1]

end

end Perl
