import SharedLvmThin.PerlText
import SharedLvmThin.KeyedLists

/-!
# Python data and its JSON

What the JSON reader builds, the text of its values and their canonical JSON. The readers of
UTF-8, JSON and ISO timestamps are parameters of whatever uses them.
-/

namespace Python
open Perl KeyedLists

/-- A float remembers its `repr`. -/
inductive Json
  | null
  | bool (value : Bool)
  | int (value : Int)
  | float (text : String)
  | str (text : String)
  | list (items : List Json)
  | dict (fields : List (String × Json))

namespace Json

def isDict : Json → Bool
  | dict _ => true
  | _ => false

def isList : Json → Bool
  | list _ => true
  | _ => false

def isStr : Json → Bool
  | str _ => true
  | _ => false

def isInt : Json → Bool
  | int _ => true
  | _ => false

def fields : Json → List (String × Json)
  | dict fs => fs
  | _ => []

def items : Json → List Json
  | list vs => vs
  | _ => []

/-- `v.get(name)` of a dict. -/
def get (v : Json) (name : String) : Json := (v.fields.lookup name).getD null

/-- `v.get(name)`; only a dict has the method. -/
def attr (v : Json) (name : String) : Except String Json := do
  dieIf (!v.isDict) "object has no attribute 'get'"
  return v.get name

/-- `v.get(name, {})` -/
def attrOrEmpty (v : Json) (name : String) : Except String Json := do
  dieIf (!v.isDict) "object has no attribute 'get'"
  return (v.fields.lookup name).getD (dict [])

/-- `v[name]` -/
def item (v : Json) (name : String) : Except String Json :=
  match v.fields.lookup name with
  | some value => .ok value
  | none => .error name

/-- `v is True`, `v is False` and equality with a text or with the empty list. -/
def isBool (b : Bool) : Json → Bool
  | bool value => value == b
  | _ => false

def isText (s : String) : Json → Bool
  | str text => text == s
  | _ => false

def isEmptyList : Json → Bool
  | list [] => true
  | _ => false

def isNull : Json → Bool
  | null => true
  | _ => false

/-- `type(v) is int and v == n` -/
def isNumber (n : Int) : Json → Bool
  | int value => value == n
  | _ => false

/-- A dict whose names are exactly `names`. -/
def isRecord (names : List String) (v : Json) : Bool :=
  v.isDict && names.all (· ∈ v.fields.map Prod.fst) && (v.fields.map Prod.fst).all (· ∈ names)

/-- `str(v)`. No pattern of a validator admits the brackets of a container. -/
def text : Json → String
  | null => "None"
  | bool b => if b then "True" else "False"
  | int n => toString n
  | float t => t
  | str s => s
  | list _ => "[]"
  | dict _ => "\x7b\x7d"

theorem eq_str_of_isStr {v : Json} (h : v.isStr = true) : v = str v.text := by
  cases v with
  | str s => rfl
  | _ => cases h

mutual

/-- Equality of values without floats; dicts are compared by name. -/
def same : Json → Json → Bool
  | null, null => true
  | bool a, bool b => a = b
  | bool a, int n => n = a.toNat
  | int n, bool a => n = a.toNat
  | int a, int b => a = b
  | float a, float b => a = b
  | str a, str b => a = b
  | list a, list b => sameItems a b
  | dict a, dict b => a.length = b.length && sameFields a b
  | _, _ => false

def sameItems : List Json → List Json → Bool
  | [], [] => true
  | a :: as, b :: bs => same a b && sameItems as bs
  | _, _ => false

def sameFields : List (String × Json) → List (String × Json) → Bool
  | [], _ => true
  | (name, a) :: rest, fields =>
    (match fields.lookup name with
      | some b => same a b
      | none => false) && sameFields rest fields

end

/-! ## Canonical text -/

def hex4 (n : Nat) : List Char := [12, 8, 4, 0].map fun shift => Nat.digitChar (n >>> shift % 16)

/-- The escapes of `ensure_ascii`; a wide character is a surrogate pair. -/
def escapeChar (c : Char) : List Char :=
  if c = '"' then ['\\', '"']
  else if c = '\\' then ['\\', '\\']
  else if c = '\n' then ['\\', 'n']
  else if c = '\r' then ['\\', 'r']
  else if c = '\t' then ['\\', 't']
  else if c = '\x0c' then ['\\', 'f']
  else if c = '\x08' then ['\\', 'b']
  else if ' ' ≤ c && c ≤ '~' then [c]
  else if c.toNat < 0x10000 then ['\\', 'u'] ++ hex4 c.toNat
  else ['\\', 'u'] ++ hex4 (0xd800 + (c.toNat - 0x10000) / 0x400) ++
    ['\\', 'u'] ++ hex4 (0xdc00 + (c.toNat - 0x10000) % 0x400)

def quote (s : String) : String := "\"" ++ String.ofList (s.toList.flatMap escapeChar) ++ "\""

mutual

/-- `json.dumps(v, sort_keys=True, separators=(",", ":"))` -/
def dumps : Json → String
  | null => "null"
  | bool b => if b then "true" else "false"
  | int n => toString n
  | float t => t
  | str s => quote s
  | list items => "[" ++ ",".intercalate (dumpsItems items) ++ "]"
  | dict fields =>
    "\x7b" ++ ",".intercalate ((sortBy Prod.fst (dumpsFields fields)).map fun field =>
      quote field.1 ++ ":" ++ field.2) ++ "\x7d"

def dumpsItems : List Json → List String
  | [] => []
  | v :: rest => dumps v :: dumpsItems rest

def dumpsFields : List (String × Json) → List (String × String)
  | [] => []
  | (name, v) :: rest => (name, dumps v) :: dumpsFields rest

end

def indentation (level : Nat) : String := String.ofList (List.replicate (2 * level) ' ')

/-- The rows of a container, one to a line. -/
def block (opening closing : String) (level : Nat) (rows : List String) : String :=
  if rows.isEmpty then opening ++ closing
  else opening ++ "\n" ++ ",\n".intercalate (rows.map (indentation (level + 1) ++ ·)) ++ "\n" ++
    indentation level ++ closing

mutual

/-- `json.dumps(v, sort_keys=True, indent=2)` at a depth. -/
def indented (level : Nat) : Json → String
  | null => "null"
  | bool b => if b then "true" else "false"
  | int n => toString n
  | float t => t
  | str s => quote s
  | list items => block "[" "]" level (indentedItems (level + 1) items)
  | dict fields =>
    block "\x7b" "\x7d" level ((sortBy Prod.fst (indentedFields (level + 1) fields)).map fun field
      =>
      quote field.1 ++ ": " ++ field.2)

def indentedItems (level : Nat) : List Json → List String
  | [] => []
  | v :: rest => indented level v :: indentedItems level rest

def indentedFields (level : Nat) : List (String × Json) → List (String × String)
  | [] => []
  | (name, v) :: rest => (name, indented level v) :: indentedFields level rest

end

example : dumps (dict [("b", list [int 1, null]), ("a", str "ü")]) =
    "\x7b\"a\":\"\\u00fc\",\"b\":[1,null]\x7d" := by decide +kernel

end Json

/-! ## Text -/

def isLineBreak (c : Char) : Bool :=
  c ∈ ['\n', '\r', '\x0b', '\x0c', '\x1c', '\x1d', '\x1e', '\u0085', '\u2028', '\u2029']

/-- The lines of the rest, the line at hand in reverse. -/
def linesFrom (line : List Char) : List Char → List String
  | [] => if line.isEmpty then [] else [String.ofList line.reverse]
  | '\r' :: '\n' :: rest => String.ofList line.reverse :: linesFrom [] rest
  | c :: rest =>
    if isLineBreak c then String.ofList line.reverse :: linesFrom [] rest
    else linesFrom (c :: line) rest

/-- `s.splitlines()` -/
def splitlines (s : String) : List String := linesFrom [] s.toList

theorem linesFrom_line {line rest : List Char} (h : ∀ c ∈ line, isLineBreak c = false)
    (start : List Char) : linesFrom start (line ++ '\n' :: rest) =
      String.ofList (start.reverse ++ line) :: linesFrom [] rest := by
  induction line generalizing start with
  | nil => simp [linesFrom, isLineBreak]
  | cons c line ih =>
    have hc : isLineBreak c = false := h c List.mem_cons_self
    have hreturn : c ≠ '\r' := by
      rintro rfl
      cases hc
    have hrest := ih (fun d hd => h d (List.mem_cons_of_mem _ hd)) (c :: start)
    rw [List.cons_append, linesFrom.eq_3 _ _ _ fun _ heq _ => hreturn heq, hc]
    simpa using hrest

def unlines (lines : List String) : String :=
  String.ofList (lines.flatMap fun line => line.toList ++ ['\n'])

theorem splitlines_unlines {lines : List String}
    (h : ∀ line ∈ lines, ∀ c ∈ line.toList, isLineBreak c = false) :
    splitlines (unlines lines) = lines := by
  rw [splitlines, unlines, String.toList_ofList]
  induction lines with
  | nil => rfl
  | cons line lines ih =>
    have hrest := ih fun l hl => h l (List.mem_cons_of_mem _ hl)
    rw [List.flatMap_cons, List.append_assoc, List.singleton_append,
      linesFrom_line (h line List.mem_cons_self), hrest]
    simp

/-- `s.replace(c, t)` for one character. -/
def replaceChar (c : Char) (t : String) (s : String) : String :=
  String.ofList (s.toList.flatMap fun d => if d = c then t.toList else [d])

/-- `s.split(c, 1)[1]`, if there is one. -/
def afterFirst (c : Char) (s : String) : String :=
  String.ofList ((s.toList.dropWhile (· ≠ c)).drop 1)

end Python
