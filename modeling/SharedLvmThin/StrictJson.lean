import SharedLvmThin.JsonGrammar
import SharedLvmThin.PerlText

/-! The strict reader of JSON evidence. A pattern cuts the text into tokens, a recursive walk checks
the token tree for duplicate keys and depth, and only then the text is decoded. -/

namespace SharedLvmThin.StrictJson
open Perl JsonGrammar

/-- `_need` -/
def need (good : Bool) (message : String) : Except String Unit :=
  dieIf (!good) ("VM_DESTROY_RUNTIME_REFUSED: " ++ message ++ "\n")

/-! ## Tokens -/

abbrev Token := List Char

/-- `(?:[^"\\\x00-\x1f]|\\(?:["\\\/bfnrt]|u[0-9a-fA-F]{4}))*"`, after the opening quote. -/
def lexString : List Char → Option (Token × List Char)
  | '\\' :: 'u' :: a :: b :: c :: d :: rest =>
    if [a, b, c, d].all isHex then
      (lexString rest).map fun r => (['\\', 'u', a, b, c, d] ++ r.1, r.2)
    else none
  | '\\' :: c :: rest =>
    if c ∈ escapes then (lexString rest).map fun r => (['\\', c] ++ r.1, r.2) else none
  | '"' :: rest => some (['"'], rest)
  | c :: rest => if c = '\\' || c.toNat < 32 then none else (lexString rest).map fun r =>
      (c :: r.1, r.2)
  | [] => none

/-- `-?` -/
def lexSign : List Char → Token × List Char
  | '-' :: rest => (['-'], rest)
  | s => ([], s)

/-- `(?:0|[1-9][0-9]*)` -/
def lexWhole : List Char → Option (Token × List Char)
  | '0' :: rest => some (['0'], rest)
  | c :: rest =>
    if c.isDigit then some (c :: rest.takeWhile Char.isDigit, rest.dropWhile Char.isDigit) else none
  | [] => none

/-- `(?:\.[0-9]+)?` -/
def lexFraction : List Char → Token × List Char
  | '.' :: rest =>
    if rest.takeWhile Char.isDigit = [] then ([], '.' :: rest)
    else ('.' :: rest.takeWhile Char.isDigit, rest.dropWhile Char.isDigit)
  | s => ([], s)

/-- `[+-]?` -/
def lexPlusMinus : List Char → Token × List Char
  | '+' :: rest => (['+'], rest)
  | '-' :: rest => (['-'], rest)
  | s => ([], s)

/-- `(?:[eE][+-]?[0-9]+)?` -/
def lexExponent : List Char → Token × List Char
  | [] => ([], [])
  | e :: rest =>
    let (sign, digits) := lexPlusMinus rest
    if (e = 'e' || e = 'E') && digits.takeWhile Char.isDigit ≠ [] then
      (e :: (sign ++ digits.takeWhile Char.isDigit), digits.dropWhile Char.isDigit)
    else ([], e :: rest)

def lexNumber (s : List Char) : Option (Token × List Char) :=
  let (sign, s) := lexSign s
  (lexWhole s).map fun (whole, s) =>
    let (fraction, s) := lexFraction s
    let (exponent, s) := lexExponent s
    (sign ++ (whole ++ (fraction ++ exponent)), s)

def lexLiteral (s : List Char) : Option (Token × List Char) :=
  (literals.find? fun t => t.isPrefixOf s).map fun t => (t, s.drop t.length)

def punctuation : List Char := ['\x7b', '\x7d', '[', ']', ':', ',']

def lexToken : List Char → Option (Token × List Char)
  | [] => none
  | c :: rest =>
    if c = '"' then (lexString rest).map fun r => ('"' :: r.1, r.2)
    else if c ∈ punctuation then some ([c], rest)
    else (lexNumber (c :: rest)).or (lexLiteral (c :: rest))

/-- `\G\s*(token)` -/
def nextToken (s : List Char) : Option (Token × List Char) := lexToken (s.dropWhile isSpace)

/-! ## A token is what was read -/

theorem lexString_append {s rest : List Char} {t : Token} (h : lexString s = some (t, rest)) :
    s = t ++ rest := by
  fun_induction lexString s generalizing t with
  | case1 a b c d s hhex ih =>
    obtain ⟨⟨u, r⟩, hr, heq⟩ := Option.map_eq_some_iff.mp h
    cases heq
    rw [ih hr]
    rfl
  | case2 => cases h
  | case3 c s hnot hescape ih =>
    obtain ⟨⟨u, r⟩, hr, heq⟩ := Option.map_eq_some_iff.mp h
    cases heq
    rw [ih hr]
    rfl
  | case4 => cases h
  | case5 s =>
    cases h
    rfl
  | case6 => cases h
  | case7 c s _ _ _ hplain ih =>
    obtain ⟨⟨u, r⟩, hr, heq⟩ := Option.map_eq_some_iff.mp h
    cases heq
    rw [ih hr]
    rfl
  | case8 => cases h

theorem lexSign_append (s : List Char) : (lexSign s).1 ++ (lexSign s).2 = s := by
  fun_cases lexSign s <;> rfl

theorem lexPlusMinus_append (s : List Char) : (lexPlusMinus s).1 ++ (lexPlusMinus s).2 = s := by
  fun_cases lexPlusMinus s <;> rfl

theorem lexWhole_append {s rest : List Char} {t : Token} (h : lexWhole s = some (t, rest)) :
    s = t ++ rest ∧ t ≠ [] := by
  fun_cases lexWhole s with
  | case1 s =>
    cases h
    exact ⟨rfl, List.cons_ne_nil _ _⟩
  | case2 c s hnot hdigit =>
    rw [lexWhole.eq_2 _ _ hnot, if_pos hdigit] at h
    cases h
    exact ⟨by rw [List.cons_append, List.takeWhile_append_dropWhile], List.cons_ne_nil _ _⟩
  | case3 c s hnot hdigit =>
    rw [lexWhole.eq_2 _ _ hnot, if_neg hdigit] at h
    cases h
  | case4 => cases h

theorem lexFraction_append (s : List Char) : (lexFraction s).1 ++ (lexFraction s).2 = s := by
  fun_cases lexFraction s with
  | case1 => rfl
  | case2 => exact congrArg ('.' :: ·) List.takeWhile_append_dropWhile
  | case3 => rfl

theorem lexExponent_append (s : List Char) : (lexExponent s).1 ++ (lexExponent s).2 = s := by
  fun_cases lexExponent s with
  | case1 => rfl
  | case2 e rest sign digits hparts _ =>
    have hrest := lexPlusMinus_append rest
    rw [hparts] at hrest
    rw [List.cons_append, List.append_assoc, List.takeWhile_append_dropWhile, hrest]
  | case3 => rfl

theorem lexNumber_append {s rest : List Char} {t : Token} (h : lexNumber s = some (t, rest)) :
    s = t ++ rest ∧ t ≠ [] := by
  obtain ⟨⟨whole, s'⟩, hwhole, heq⟩ := Option.map_eq_some_iff.mp h
  have hread : lexWhole (lexSign s).2 = some (whole, s') := hwhole
  have ht : (lexSign s).1 ++ (whole ++ ((lexFraction s').1 ++ (lexExponent (lexFraction s').2).1)) =
    t :=
    congrArg Prod.fst heq
  have hrest : (lexExponent (lexFraction s').2).2 = rest := congrArg Prod.snd heq
  obtain ⟨hs', hne⟩ := lexWhole_append hread
  constructor
  · calc s = (lexSign s).1 ++ (lexSign s).2 := (lexSign_append s).symm
      _ = (lexSign s).1 ++ (whole ++ s') := by rw [hs']
      _ = (lexSign s).1 ++ (whole ++ ((lexFraction s').1 ++ (lexFraction s').2)) := by
        rw [lexFraction_append]
      _ = (lexSign s).1 ++ (whole ++ ((lexFraction s').1 ++
          ((lexExponent (lexFraction s').2).1 ++ rest))) := by
        rw [← hrest, lexExponent_append]
      _ = t ++ rest := by
        rw [← ht]
        simp only [List.append_assoc]
  · rw [← ht]
    simp [hne]

theorem lexLiteral_append {s rest : List Char} {t : Token} (h : lexLiteral s = some (t, rest)) :
    s = t ++ rest ∧ t ≠ [] := by
  obtain ⟨literal, hfind, heq⟩ := Option.map_eq_some_iff.mp h
  cases heq
  have hprefix := List.find?_some hfind
  have hmem := List.mem_of_find?_eq_some hfind
  refine ⟨(List.prefix_iff_eq_append.mp (List.isPrefixOf_iff_prefix.mp hprefix)).symm, ?_⟩
  rintro rfl
  revert hmem
  decide

theorem lexToken_append {s rest : List Char} {t : Token} (h : lexToken s = some (t, rest)) :
    s = t ++ rest ∧ t ≠ [] := by
  unfold lexToken at h
  split at h
  · cases h
  · rename_i c s
    split_ifs at h with hquote hpunctuation
    · obtain ⟨⟨u, r⟩, hr, heq⟩ := Option.map_eq_some_iff.mp h
      cases heq
      rw [hquote, lexString_append hr]
      exact ⟨rfl, List.cons_ne_nil _ _⟩
    · cases h
      exact ⟨rfl, List.cons_ne_nil _ _⟩
    · rcases Option.or_eq_some_iff.mp h with hnumber | ⟨-, hliteral⟩
      · exact lexNumber_append hnumber
      · exact lexLiteral_append hliteral

theorem nextToken_shorter {s rest : List Char} {t : Token} (h : nextToken s = some (t, rest)) :
    rest.length < s.length := by
  obtain ⟨happend, hne⟩ := lexToken_append h
  have hlength := congrArg List.length happend
  have hdrop := (List.dropWhile_suffix isSpace (l := s)).length_le
  have hpos := List.length_pos_iff.mpr hne
  rw [List.length_append] at hlength
  omega

/-- The loop over the text; `count` tokens have been read. -/
def tokenize (count : Nat) (s : List Char) : Except String (List Token) :=
  if s.all isSpace then .ok []
  else
    match h : nextToken s with
    | none => .error "VM_DESTROY_RUNTIME_REFUSED: invalid JSON token\n"
    | some (token, rest) => do
      need (count + 1 ≤ 100000) "JSON token budget"
      let tokens ← tokenize (count + 1) rest
      return token :: tokens
termination_by s.length
decreasing_by exact nextToken_shorter h

/-! ## The walk -/

/-- `$end` -/
def closing (isObject : Bool) : Token := [if isObject then '\x7d' else ']']

/-- What is left of the tokens; some have been consumed. -/
abbrev Rest (tokens : List Token) := {rest : List Token // rest.length < tokens.length}

abbrev RestOrAll (tokens : List Token) := {rest : List Token // rest.length ≤ tokens.length}

section
variable {δ : Type} (decode : List Char → Except String δ) (keyText : δ → List Nat)

/-- A key and its colon. -/
def readKey (seen : List (List Nat)) :
    (tokens : List Token) → Except String (List (List Nat) × RestOrAll tokens)
  | [] => .error "VM_DESTROY_RUNTIME_REFUSED: JSON object key\n"
  | key :: rest => do
    need (key.head? = some '"') "JSON object key"
    let value ← decode key
    need (keyText value ∉ seen) "duplicate JSON key"
    need (rest.head? = some [':']) "JSON colon"
    return (keyText value :: seen,
      ⟨rest.tail, by simp only [List.length_tail, List.length_cons]; omega⟩)

/-- An item of an array has no key. -/
def entryKey (isObject : Bool) (seen : List (List Nat)) (tokens : List Token) :
    Except String (List (List Nat) × RestOrAll tokens) :=
  if isObject then readKey decode keyText seen tokens else .ok (seen, ⟨tokens, le_rfl⟩)

/-- The `while` loop over the items of an array or the members of an object; `value` walks one
value. -/
def entries (value : (tokens : List Token) → Except String (Rest tokens)) (isObject : Bool)
    (seen : List (List Nat)) (tokens : List Token) : Except String (Rest tokens) := do
  let (seen, ⟨afterKey, hkey⟩) ← entryKey decode keyText isObject seen tokens
  match ← value afterKey with
  | ⟨[], _⟩ => .error "VM_DESTROY_RUNTIME_REFUSED: JSON separator\n"
  | ⟨separator :: rest, hvalue⟩ =>
    have hrest : rest.length < tokens.length := by
      rw [List.length_cons] at hvalue
      omega
    if separator = closing isObject then return ⟨rest, hrest⟩
    else if separator = [','] then
      let ⟨last, hlast⟩ ← entries value isObject seen rest
      return ⟨last, by omega⟩
    else .error "VM_DESTROY_RUNTIME_REFUSED: JSON separator\n"
termination_by tokens.length

/-- `$walk`; `levels` is what is left of the depth that is allowed, `25 - $depth`. -/
def walk : Nat → (tokens : List Token) → Except String (Rest tokens)
  | 0, _ => .error "VM_DESTROY_RUNTIME_REFUSED: JSON depth/truncation\n"
  | _ + 1, [] => .error "VM_DESTROY_RUNTIME_REFUSED: JSON depth/truncation\n"
  | levels + 1, t :: rest =>
    if t = ['\x7b'] ∨ t = ['['] then
      let isObject : Bool := t = ['\x7b']
      if rest.head? = some (closing isObject) then
        .ok ⟨rest.tail, by simp only [List.length_tail, List.length_cons]; omega⟩
      else do
        let ⟨last, hlast⟩ ← entries decode keyText (walk levels) isObject [] rest
        return ⟨last, by rw [List.length_cons]; omega⟩
    else do
      need (t ∉ [['\x7d'], [']'], [':'], [',']]) "JSON value"
      return ⟨rest, by rw [List.length_cons]; omega⟩

/-- `_strict_json` -/
def strictJson (raw : List Char) : Except String δ := do
  let tokens ← tokenize 0 raw
  let ⟨rest, _⟩ ← walk decode keyText 25 tokens
  need (rest = []) "JSON trailing tokens"
  decode raw

end

end SharedLvmThin.StrictJson
