import Mathlib.Data.List.Sort
import SharedLvmThin.PerlText

/-!
# Perl data and its canonical JSON

A scalar remembers whether JSON prints it as a string or as a number; a JSON boolean is a
reference that reads as `1` or `0`; a reference of any other kind than these, a hash or an
array cannot be printed at all.
-/

namespace Perl

inductive Value
  | undef
  | str (text : String)
  | num (text : String)
  | bool (value : Bool)
  | array (items : List Value)
  | hash (fields : List (String × Value))
  | otherRef

namespace Value

def isHash : Value → Bool
  | hash _ => true
  | _ => false

def isArray : Value → Bool
  | array _ => true
  | _ => false

def isDefined : Value → Bool
  | undef => false
  | _ => true

def isRef : Value → Bool
  | bool _ => true
  | array _ => true
  | hash _ => true
  | otherRef => true
  | _ => false

def fields : Value → List (String × Value)
  | hash fs => fs
  | _ => []

def has (v : Value) (name : String) : Bool := (v.fields.lookup name).isSome

/-- `$v->{name}` -/
def get (v : Value) (name : String) : Value := (v.fields.lookup name).getD undef

/-- `$v // ''` as text. The text of a reference names its address, which no pattern of a
validator admits. -/
def text : Value → String
  | undef => ""
  | str s => s
  | num s => s
  | bool b => if b then "1" else "0"
  | array _ => "ARRAY(0x0)"
  | hash _ => "HASH(0x0)"
  | otherRef => "CODE(0x0)"

def truthy (v : Value) : Bool := v.text ≠ "" && v.text ≠ "0"

/-- `{ %$v, name => value }` -/
def set (v : Value) (name : String) (value : Value) : Value :=
  hash (v.fields.filter (fun field => field.1 ≠ name) ++ [(name, value)])

def hexDigits (n : Nat) : List Char := [Nat.digitChar (n / 16 % 16), Nat.digitChar (n % 16)]

def escapeChar (c : Char) : List Char :=
  if c = '"' then ['\\', '"']
  else if c = '\\' then ['\\', '\\']
  else if c = '\n' then ['\\', 'n']
  else if c = '\r' then ['\\', 'r']
  else if c = '\t' then ['\\', 't']
  else if c = '\x0c' then ['\\', 'f']
  else if c = '\x08' then ['\\', 'b']
  else if c.toNat < 32 then ['\\', 'u', '0', '0'] ++ hexDigits c.toNat
  else [c]

def quote (s : String) : String := "\"" ++ String.ofList (s.toList.flatMap escapeChar) ++ "\""

mutual

/-- `JSON::PP->new->canonical->encode` -/
def canonical : Value → Except String String
  | undef => .ok "null"
  | str s => .ok (quote s)
  | num s => .ok s
  | bool b => .ok (if b then "true" else "false")
  | array items => do
    let texts ← canonicalItems items
    return "[" ++ ",".intercalate texts ++ "]"
  | hash fields => do
    let texts ← canonicalFields fields
    let sorted := texts.insertionSort fun a b => a.1 ≤ b.1
    return "\x7b" ++ ",".intercalate (sorted.map fun field => quote field.1 ++ ":" ++ field.2) ++ "\x7d"
  | otherRef =>
    .error "encountered CODE(0x0), but JSON can only represent references to arrays or hashes"

def canonicalItems : List Value → Except String (List String)
  | [] => .ok []
  | v :: rest => do
    let text ← canonical v
    let texts ← canonicalItems rest
    return text :: texts

def canonicalFields : List (String × Value) → Except String (List (String × String))
  | [] => .ok []
  | (name, v) :: rest => do
    let text ← canonical v
    let texts ← canonicalFields rest
    return (name, text) :: texts

end

/-- `JSON::PP->new->decode(_canonical($v))`: a deep copy, or death. -/
def copy (v : Value) : Except String Value := do
  let _ ← canonical v
  return v

example : canonical (hash [("lock", str "destroyed"), ("id", num "7"), ("a", array [undef])]) =
    .ok "\x7b\"a\":[null],\"id\":7,\"lock\":\"destroyed\"\x7d" := by decide +kernel

end Value
end Perl
