import SharedLvmThin.PythonData

/-! Python's text methods, and the word boundaries of its patterns. -/

namespace Python
open Perl

/-- `str.isspace`, and `\s` -/
def isSpace (c : Char) : Bool :=
  isLineBreak c || c ∈ ['\t', ' ', '\x1f', '\u00a0', '\u1680', '\u202f', '\u205f', '\u3000'] ||
    (0x2000 ≤ c.toNat && c.toNat ≤ 0x200a)

/-- `s.strip()` -/
def strip (s : String) : String :=
  String.ofList ((s.toList.dropWhile isSpace).rdropWhile isSpace)

/-- `part in text` -/
def contains (text part : String) : Bool := part.toList <:+: text.toList

/-- `re.sub(r"\s+", " ", s)`, after a space or not. -/
def collapseFrom (afterSpace : Bool) : List Char → List Char
  | [] => []
  | c :: rest =>
    if isSpace c then (if afterSpace then [] else [' ']) ++ collapseFrom true rest
    else c :: collapseFrom false rest

def collapse (s : String) : String := String.ofList (collapseFrom false s.toList)

/-- `\w`: its table is not needed, only that it agrees with ASCII and holds the digits. -/
structure Words where
  isWord : Char → Bool
  ascii : ∀ c, c.toNat < 128 → isWord c = Perl.isWord c
  digit : ∀ c, isDigit c = true → isWord c = true

/-- `\b` between two characters. -/
def Words.isBoundary (w : Words) (previous next : Option Char) : Bool :=
  previous.any w.isWord != next.any w.isWord

/-! ## Numerals -/

/-- Digits that are no decimal digits: superscripts, circled digits and the like. -/
def otherDigits : List (Nat × Nat) :=
  [(0xb2, 2), (0xb9, 1), (0x1369, 9), (0x19da, 1), (0x2070, 1), (0x2074, 6), (0x2080, 10), (0x2460, 9),
    (0x2474, 9), (0x2488, 9), (0x24ea, 1), (0x24f5, 9), (0x24ff, 1), (0x2776, 9), (0x2780, 9),
    (0x278a, 9), (0x10a40, 4), (0x10e60, 9), (0x11052, 9), (0x1f100, 11)]

/-- `s.isdigit()` -/
def isdigit (s : String) : Bool :=
  plus (fun c => isDigit c || otherDigits.any fun d => d.1 ≤ c.toNat && c.toNat < d.1 + d.2) s

/-- What a decimal digit stands for. -/
def digitValue (c : Char) : Nat :=
  if c.isDigit then c.toNat - 48
  else ((unicodeZeros.find? fun z => z ≤ c.toNat && c.toNat < z + 10).map (c.toNat - ·)).getD 0

def maxDigits : Nat := 4300

/-- `int(s)` of a text of digits. -/
def int (s : String) : Except String Int := do
  dieIf (s.toList.length > maxDigits) "Exceeds the limit (4300 digits) for integer string conversion"
  dieIf (!plus isDigit s) "invalid literal for int() with base 10"
  return (s.toList.foldl (fun n c => 10 * n + digitValue c) 0 : Nat)

example : int "\u0664\u0662" = .ok 42 := by decide +kernel

/-- `s.split(c)` for one character. -/
def split (c : Char) (s : String) : List String := (s.toList.splitOn c).map String.ofList

end Python
