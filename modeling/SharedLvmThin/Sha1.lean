import SharedLvmThin.Sha256

/-!
# SHA-1 of a byte string, as `sha1_hex` prints it

Padding, word splitting and printing are those of SHA-256.
-/

namespace Sha1
open Sha256 (word)

def rotl (x n : Nat) : Nat := word (x <<< n) ||| (x >>> (32 - n))

structure State where
  a : Nat
  b : Nat
  c : Nat
  d : Nat
  e : Nat

def initial : State := ⟨0x67452301, 0xefcdab89, 0x98badcfe, 0x10325476, 0xc3d2e1f0⟩

def extend : Nat → List Nat → List Nat
  | 0, w => w
  | n + 1, w =>
    extend n (rotl (w.getD 2 0 ^^^ w.getD 7 0 ^^^ w.getD 13 0 ^^^ w.getD 15 0) 1 :: w)

def mix (t : Nat) (s : State) : Nat :=
  if t < 20 then (s.b &&& s.c) ||| ((s.b ^^^ (2 ^ 32 - 1)) &&& s.d)
  else if t < 40 then s.b ^^^ s.c ^^^ s.d
  else if t < 60 then (s.b &&& s.c) ||| (s.b &&& s.d) ||| (s.c &&& s.d)
  else s.b ^^^ s.c ^^^ s.d

def constant (t : Nat) : Nat :=
  if t < 20 then 0x5a827999 else if t < 40 then 0x6ed9eba1 else if t < 60 then 0x8f1bbcdc
  else 0xca62c1d6

def round (s : State) (t w : Nat) : State :=
  ⟨word (rotl s.a 5 + mix t s + s.e + constant t + w), s.a, rotl s.b 30, s.c, s.d⟩

def compress (s : State) (block : List Nat) : State :=
  let schedule := (extend 64 block.reverse).reverse
  let t := ((List.range 80).zip schedule).foldl (fun t kw => round t kw.1 kw.2) s
  ⟨word (s.a + t.a), word (s.b + t.b), word (s.c + t.c), word (s.d + t.d), word (s.e + t.e)⟩

def run (bytes : List Nat) : State :=
  let ws := Sha256.words (Sha256.pad bytes)
  (List.range (ws.length / 16)).foldl (fun s i => compress s ((ws.drop (16 * i)).take 16)) initial

def hex (s : State) : List Char := [s.a, s.b, s.c, s.d, s.e].flatMap Sha256.hexWord

/-- `sha1_hex` refuses text that is not a byte string. -/
def sha1Hex (text : String) : Except String String := do
  Perl.dieIf (text.toList.any fun c => 256 ≤ c.toNat) "Wide character in subroutine entry"
  return String.ofList (hex (run (text.toList.map Char.toNat)))

example : sha1Hex "abc" = .ok "a9993e364706816aba3e25717850c26c9cd0d89d" := by
  decide +kernel

end Sha1
