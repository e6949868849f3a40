import Mathlib.Data.List.Basic
import Mathlib.Data.List.Nodup

/-! The grammar of JSON texts. A document keeps its strings and numbers as they are written; what a
string stands for is a list of code points. -/

namespace JsonGrammar

abbrev Text := List Char

/-! ## Strings, numbers and literals -/

def isBlank (c : Char) : Bool := c ∈ [' ', '\t', '\n', '\r']

def Blank (w : Text) : Prop := ∀ c ∈ w, isBlank c = true

def isHex (c : Char) : Bool := c.isDigit || ('a' ≤ c && c ≤ 'f') || ('A' ≤ c && c ≤ 'F')

def escapes : List Char := ['"', '\\', '/', 'b', 'f', 'n', 'r', 't']

/-- One character of a string as it is written. -/
inductive Piece : Text → Prop
  | plain {c : Char} (hquote : c ≠ '"') (hback : c ≠ '\\') (hcontrol : 32 ≤ c.toNat) : Piece [c]
  | escape {c : Char} (h : c ∈ escapes) : Piece ['\\', c]
  | unicode {a b c d : Char} (h : [a, b, c, d].all isHex = true) : Piece ['\\', 'u', a, b, c, d]

def IsString (t : Text) : Prop :=
  ∃ pieces : List Text, (∀ p ∈ pieces, Piece p) ∧ t = '"' :: (pieces.flatten ++ ['"'])

def Digits (t : Text) : Prop := t ≠ [] ∧ ∀ c ∈ t, c.isDigit = true

/-- The parts of a number. -/
structure IsNumber (sign whole fraction exponent : Text) : Prop where
  sign : sign = [] ∨ sign = ['-']
  whole : whole = ['0'] ∨ (Digits whole ∧ whole.head? ≠ some '0')
  fraction : fraction = [] ∨ ∃ digits, Digits digits ∧ fraction = '.' :: digits
  exponent : exponent = [] ∨ ∃ e sign digits, (e = 'e' ∨ e = 'E') ∧
    (sign = [] ∨ sign = ['+'] ∨ sign = ['-']) ∧ Digits digits ∧ exponent = e :: (sign ++ digits)

def literals : List Text := ["true".toList, "false".toList, "null".toList]

inductive IsAtom : Text → Prop
  | string {t : Text} (h : IsString t) : IsAtom t
  | number {sign whole fraction exponent : Text} (h : IsNumber sign whole fraction exponent) :
    IsAtom (sign ++ (whole ++ (fraction ++ exponent)))
  | literal {t : Text} (h : t ∈ literals) : IsAtom t

/-! ## Documents -/

inductive Doc
  | atom (token : Text)
  | array (items : List Doc)
  | object (members : List (Text × Doc))

/-- A value and the blanks around it. -/
structure Element where
  before : Text
  text : Text
  doc : Doc
  after : Text

def Element.chars (e : Element) : Text := e.before ++ (e.text ++ e.after)

structure Member where
  before : Text
  key : Text
  after : Text
  value : Element

def Member.chars (m : Member) : Text := m.before ++ (m.key ++ (m.after ++ ':' :: m.value.chars))

def Element.Blanks (e : Element) : Prop := Blank e.before ∧ Blank e.after

def Member.Blanks (m : Member) : Prop := Blank m.before ∧ Blank m.after ∧ m.value.Blanks

/-- The text is written out, with a comma between two of the parts. -/
def commas (parts : List Text) : Text := [','].intercalate parts

inductive IsValue : Text → Doc → Prop
  | atom {t : Text} (h : IsAtom t) : IsValue t (.atom t)
  | emptyArray {w : Text} (hw : Blank w) : IsValue ('[' :: (w ++ [']'])) (.array [])
  | array {es : List Element} (hne : es ≠ []) (hblanks : ∀ e ∈ es, e.Blanks)
    (h : ∀ e ∈ es, IsValue e.text e.doc) :
    IsValue ('[' :: (commas (es.map Element.chars) ++ [']'])) (.array (es.map Element.doc))
  | emptyObject {w : Text} (hw : Blank w) : IsValue ('\x7b' :: (w ++ ['\x7d'])) (.object [])
  | object {ms : List Member} (hne : ms ≠ []) (hblanks : ∀ m ∈ ms, m.Blanks)
    (hkeys : ∀ m ∈ ms, IsString m.key) (h : ∀ m ∈ ms, IsValue m.value.text m.value.doc) :
    IsValue ('\x7b' :: (commas (ms.map Member.chars) ++ ['\x7d']))
      (.object (ms.map fun m => (m.key, m.value.doc)))

/-- A JSON text. -/
def IsText (t : Text) (doc : Doc) : Prop :=
  ∃ before text after, Blank before ∧ IsValue text doc ∧ Blank after ∧ t = before ++ (text ++ after)

/-! ## What a string stands for -/

def hexValue (c : Char) : Nat :=
  if c.isDigit then c.toNat - 48 else if c.toNat < 97 then c.toNat - 55 else c.toNat - 87

/-- The code units of the pieces. -/
def units : Text → List Nat
  | '\\' :: 'u' :: a :: b :: c :: d :: rest =>
    (4096 * hexValue a + 256 * hexValue b + 16 * hexValue c + hexValue d) :: units rest
  | '\\' :: 'b' :: rest => 8 :: units rest
  | '\\' :: 'f' :: rest => 12 :: units rest
  | '\\' :: 'n' :: rest => 10 :: units rest
  | '\\' :: 'r' :: rest => 13 :: units rest
  | '\\' :: 't' :: rest => 9 :: units rest
  | '\\' :: c :: rest => c.toNat :: units rest
  | '"' :: _ => []
  | c :: rest => c.toNat :: units rest
  | [] => []

/-- Two surrogates make one code point. -/
def joinSurrogates : List Nat → List Nat
  | high :: low :: rest =>
    if 0xd800 ≤ high ∧ high < 0xdc00 ∧ 0xdc00 ≤ low ∧ low < 0xe000 then
      (65536 + ((high - 0xd800) * 1024 + (low - 0xdc00))) :: joinSurrogates rest
    else high :: joinSurrogates (low :: rest)
  | codes => codes

/-- The code points of a string. -/
def unescape (t : Text) : List Nat := joinSurrogates (units (t.drop 1))

example : unescape "\"\\u0041\\ud83d\\ude00\"".toList = unescape "\"A😀\"".toList :=
  by decide +kernel

/-! ## Depth, duplicates and tokens -/

mutual

/-- How far the deepest value lies below the root. -/
def Doc.depth : Doc → Nat
  | .atom _ => 0
  | .array items => itemsDepth items
  | .object members => membersDepth members

def itemsDepth : List Doc → Nat
  | [] => 0
  | d :: rest => max (d.depth + 1) (itemsDepth rest)

def membersDepth : List (Text × Doc) → Nat
  | [] => 0
  | (_, d) :: rest => max (d.depth + 1) (membersDepth rest)

end

mutual

/-- No object has two keys that stand for one string. -/
def Doc.Distinct : Doc → Prop
  | .atom _ => True
  | .array items => ItemsDistinct items
  | .object members => (members.map fun m => unescape m.1).Nodup ∧ MembersDistinct members

def ItemsDistinct : List Doc → Prop
  | [] => True
  | d :: rest => d.Distinct ∧ ItemsDistinct rest

def MembersDistinct : List (Text × Doc) → Prop
  | [] => True
  | (_, d) :: rest => d.Distinct ∧ MembersDistinct rest

end

mutual

/-- Strings, numbers, literals and punctuation, in the order of the text. -/
def Doc.tokens : Doc → List Text
  | .atom t => [t]
  | .array items => ['['] :: (itemsTokens items ++ [[']']])
  | .object members => ['\x7b'] :: (membersTokens members ++ [['\x7d']])

def itemsTokens : List Doc → List Text
  | [] => []
  | [d] => d.tokens
  | d :: rest => d.tokens ++ [','] :: itemsTokens rest

def membersTokens : List (Text × Doc) → List Text
  | [] => []
  | [(key, d)] => key :: [':'] :: d.tokens
  | (key, d) :: rest => key :: [':'] :: (d.tokens ++ [','] :: membersTokens rest)

end

end JsonGrammar
