import SharedLvmThin.PerlText

/-!
# SHA-256 of a byte string, as `sha256_hex` prints it

Words are naturals reduced modulo `2^32`. The schedule keeps the most recent word
first, so that the four taps of the recurrence sit at fixed positions.
-/

namespace Sha256

def word (n : Nat) : Nat := n % 2 ^ 32

def rotr (x n : Nat) : Nat := (x >>> n) ||| word (x <<< (32 - n))

def roundConstants : List Nat :=
  [0x428a2f98, 0x71374491, 0xb5c0fbcf, 0xe9b5dba5, 0x3956c25b, 0x59f111f1, 0x923f82a4, 0xab1c5ed5,
    0xd807aa98, 0x12835b01, 0x243185be, 0x550c7dc3, 0x72be5d74, 0x80deb1fe, 0x9bdc06a7, 0xc19bf174,
    0xe49b69c1, 0xefbe4786, 0x0fc19dc6, 0x240ca1cc, 0x2de92c6f, 0x4a7484aa, 0x5cb0a9dc, 0x76f988da,
    0x983e5152, 0xa831c66d, 0xb00327c8, 0xbf597fc7, 0xc6e00bf3, 0xd5a79147, 0x06ca6351, 0x14292967,
    0x27b70a85, 0x2e1b2138, 0x4d2c6dfc, 0x53380d13, 0x650a7354, 0x766a0abb, 0x81c2c92e, 0x92722c85,
    0xa2bfe8a1, 0xa81a664b, 0xc24b8b70, 0xc76c51a3, 0xd192e819, 0xd6990624, 0xf40e3585, 0x106aa070,
    0x19a4c116, 0x1e376c08, 0x2748774c, 0x34b0bcb5, 0x391c0cb3, 0x4ed8aa4a, 0x5b9cca4f, 0x682e6ff3,
    0x748f82ee, 0x78a5636f, 0x84c87814, 0x8cc70208, 0x90befffa, 0xa4506ceb, 0xbef9a3f7, 0xc67178f2]

structure State where
  a : Nat
  b : Nat
  c : Nat
  d : Nat
  e : Nat
  f : Nat
  g : Nat
  h : Nat

def initial : State :=
  ⟨0x6a09e667, 0xbb67ae85, 0x3c6ef372, 0xa54ff53a, 0x510e527f, 0x9b05688c, 0x1f83d9ab, 0x5be0cd19⟩

def extend : Nat → List Nat → List Nat
  | 0, w => w
  | n + 1, w =>
    let x := w.getD 14 0
    let y := w.getD 1 0
    let s0 := rotr x 7 ^^^ rotr x 18 ^^^ (x >>> 3)
    let s1 := rotr y 17 ^^^ rotr y 19 ^^^ (y >>> 10)
    extend n (word (w.getD 15 0 + s0 + w.getD 6 0 + s1) :: w)

def round (s : State) (k w : Nat) : State :=
  let s1 := rotr s.e 6 ^^^ rotr s.e 11 ^^^ rotr s.e 25
  let ch := (s.e &&& s.f) ^^^ ((s.e ^^^ (2 ^ 32 - 1)) &&& s.g)
  let t1 := s.h + s1 + ch + k + w
  let s0 := rotr s.a 2 ^^^ rotr s.a 13 ^^^ rotr s.a 22
  let maj := (s.a &&& s.b) ^^^ (s.a &&& s.c) ^^^ (s.b &&& s.c)
  ⟨word (t1 + (s0 + maj)), s.a, s.b, s.c, word (s.d + t1), s.e, s.f, s.g⟩

def compress (s : State) (block : List Nat) : State :=
  let schedule := (extend 48 block.reverse).reverse
  let t := (roundConstants.zip schedule).foldl (fun t kw => round t kw.1 kw.2) s
  ⟨word (s.a + t.a), word (s.b + t.b), word (s.c + t.c), word (s.d + t.d),
    word (s.e + t.e), word (s.f + t.f), word (s.g + t.g), word (s.h + t.h)⟩

def pad (bytes : List Nat) : List Nat :=
  let zeros := (119 - bytes.length % 64) % 64
  bytes ++ 0x80 :: List.replicate zeros 0 ++
    (List.range 8).map fun i => (8 * bytes.length) >>> (56 - 8 * i) % 256

def words : List Nat → List Nat
  | a :: b :: c :: d :: rest => (a * 2 ^ 24 + b * 2 ^ 16 + c * 2 ^ 8 + d) :: words rest
  | _ => []

def run (bytes : List Nat) : State :=
  let ws := words (pad bytes)
  (List.range (ws.length / 16)).foldl (fun s i => compress s ((ws.drop (16 * i)).take 16)) initial

def hexDigit (n : Nat) : Char := Nat.digitChar (n % 16)

def hexWord (w : Nat) : List Char := (List.range 8).map fun i => hexDigit (w >>> (28 - 4 * i))

def hex (s : State) : List Char := [s.a, s.b, s.c, s.d, s.e, s.f, s.g, s.h].flatMap hexWord

/-- `sha256_hex` refuses text that is not a byte string. -/
def sha256Hex (text : String) : Except String String := do
  Perl.dieIf (text.toList.any fun c => 256 ≤ c.toNat) "Wide character in subroutine entry"
  return String.ofList (hex (run (text.toList.map Char.toNat)))

theorem sha256Hex_of_toList {text : String} {chars : List Char} (htext : text.toList = chars)
    (hbytes : (chars.any fun c => 256 ≤ c.toNat) = false) :
    sha256Hex text = .ok (String.ofList (hex (run (chars.map Char.toNat)))) := by
  rw [sha256Hex, htext, hbytes]
  rfl

theorem hexDigit_isLowerHex (n : Nat) : Perl.isLowerHex (hexDigit n) = true := by
  have h : ∀ m < 16, Perl.isLowerHex (Nat.digitChar m) = true := by decide
  exact h _ (Nat.mod_lt _ (by decide))

theorem hex_length (s : State) : (hex s).length = 64 := by
  simp [hex, hexWord]

theorem sha256Hex_spec {text digest : String} (h : sha256Hex text = .ok digest) :
    digest.toList.length = 64 ∧ ∀ c ∈ digest.toList, Perl.isLowerHex c = true := by
  simp only [sha256Hex, Perl.bind_eq_ok, Perl.dieIf_eq_ok, Perl.pure_eq_ok] at h
  obtain ⟨-, -, rfl⟩ := h
  refine ⟨by simpa using hex_length _, ?_⟩
  intro c hc
  simp only [String.toList_ofList, hex, List.mem_flatMap, hexWord, List.mem_map] at hc
  obtain ⟨w, -, i, -, rfl⟩ := hc
  exact hexDigit_isLowerHex _

theorem sha256Hex_isOk {text : String} (h : ∀ c ∈ text.toList, c.toNat < 256) :
    ∃ digest, sha256Hex text = .ok digest := by
  have hbytes : (text.toList.any fun c => decide (256 ≤ c.toNat)) = false := by
    rw [List.any_eq_false]
    intro c hc
    simpa using h c hc
  exact ⟨_, by simp only [sha256Hex, hbytes]; rfl⟩

theorem latin1_of_sha256Hex {text digest : String} (h : sha256Hex text = .ok digest) :
    ∀ c ∈ text.toList, c.toNat < 256 := by
  simp only [sha256Hex, Perl.bind_eq_ok, Perl.dieIf_eq_ok, List.any_eq_false] at h
  intro c hc
  simpa using h.choose_spec.1 c hc

example : sha256Hex "abc" =
    .ok "ba7816bf8f01cfea414140de5dae2223b00361a396177a9cb410ff61f20015ad" := by
  decide +kernel

end Sha256
