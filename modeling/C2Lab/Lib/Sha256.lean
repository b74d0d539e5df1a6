import Mathlib.Data.Nat.Notation
import Mathlib.Data.List.Basic

/-! SHA-256, the digest `hashlib.sha256(...).hexdigest()`.

    Bytes are natural numbers below 256; words are 32-bit vectors. -/

namespace C2Lab.Sha256

abbrev Word := BitVec 32

/-- The round constants. -/
def roundConstants : List Word :=
  [0x428a2f98, 0x71374491, 0xb5c0fbcf, 0xe9b5dba5, 0x3956c25b, 0x59f111f1, 0x923f82a4, 0xab1c5ed5,
   0xd807aa98, 0x12835b01, 0x243185be, 0x550c7dc3, 0x72be5d74, 0x80deb1fe, 0x9bdc06a7, 0xc19bf174,
   0xe49b69c1, 0xefbe4786, 0x0fc19dc6, 0x240ca1cc, 0x2de92c6f, 0x4a7484aa, 0x5cb0a9dc, 0x76f988da,
   0x983e5152, 0xa831c66d, 0xb00327c8, 0xbf597fc7, 0xc6e00bf3, 0xd5a79147, 0x06ca6351, 0x14292967,
   0x27b70a85, 0x2e1b2138, 0x4d2c6dfc, 0x53380d13, 0x650a7354, 0x766a0abb, 0x81c2c92e, 0x92722c85,
   0xa2bfe8a1, 0xa81a664b, 0xc24b8b70, 0xc76c51a3, 0xd192e819, 0xd6990624, 0xf40e3585, 0x106aa070,
   0x19a4c116, 0x1e376c08, 0x2748774c, 0x34b0bcb5, 0x391c0cb3, 0x4ed8aa4a, 0x5b9cca4f, 0x682e6ff3,
   0x748f82ee, 0x78a5636f, 0x84c87814, 0x8cc70208, 0x90befffa, 0xa4506ceb, 0xbef9a3f7, 0xc67178f2]

/-- The eight working words. -/
structure State where
  a : Word
  b : Word
  c : Word
  d : Word
  e : Word
  f : Word
  g : Word
  h : Word

/-- The initial hash value. -/
def initial : State :=
  ⟨0x6a09e667, 0xbb67ae85, 0x3c6ef372, 0xa54ff53a, 0x510e527f, 0x9b05688c, 0x1f83d9ab, 0x5be0cd19⟩

/-- `σ₀`. -/
def smallSigma0 (x : Word) : Word := x.rotateRight 7 ^^^ x.rotateRight 18 ^^^ (x >>> 3)

/-- `σ₁`. -/
def smallSigma1 (x : Word) : Word := x.rotateRight 17 ^^^ x.rotateRight 19 ^^^ (x >>> 10)

/-- `Σ₀`. -/
def bigSigma0 (x : Word) : Word := x.rotateRight 2 ^^^ x.rotateRight 13 ^^^ x.rotateRight 22

/-- `Σ₁`. -/
def bigSigma1 (x : Word) : Word := x.rotateRight 6 ^^^ x.rotateRight 11 ^^^ x.rotateRight 25

/-- Extend a message schedule by `n` words. -/
def extend : ℕ → List Word → List Word
  | 0, w => w
  | n + 1, w =>
    let t := w.length
    extend n (w ++ [smallSigma1 (w.getD (t - 2) 0) + w.getD (t - 7) 0 +
      smallSigma0 (w.getD (t - 15) 0) + w.getD (t - 16) 0])

/-- One of the 64 rounds, with its constant and schedule word. -/
def round (s : State) (kw : Word × Word) : State :=
  let t1 := s.h + bigSigma1 s.e + ((s.e &&& s.f) ^^^ (~~~s.e &&& s.g)) + kw.1 + kw.2
  let t2 := bigSigma0 s.a + ((s.a &&& s.b) ^^^ (s.a &&& s.c) ^^^ (s.b &&& s.c))
  ⟨t1 + t2, s.a, s.b, s.c, s.d + t1, s.e, s.f, s.g⟩

/-- The compression of one 16-word block. -/
def compress (s : State) (block : List Word) : State :=
  let r := (roundConstants.zip (extend 48 block)).foldl round s
  ⟨s.a + r.a, s.b + r.b, s.c + r.c, s.d + r.d, s.e + r.e, s.f + r.f, s.g + r.g, s.h + r.h⟩

/-- `n` in `k` big-endian bytes. -/
def bigEndian : ℕ → ℕ → List ℕ
  | 0, _ => []
  | k + 1, n => bigEndian k (n / 256) ++ [n % 256]

/-- The message followed by `0x80`, zeros and its bit length, a multiple of 64 bytes. -/
def pad (msg : List ℕ) : List ℕ :=
  msg ++ [0x80] ++ List.replicate ((119 - msg.length % 64) % 64) 0 ++ bigEndian 8 (8 * msg.length)

/-- Bytes as big-endian words. -/
def toWords : List ℕ → List Word
  | b0 :: b1 :: b2 :: b3 :: rest =>
    BitVec.ofNat 32 (((b0 * 256 + b1) * 256 + b2) * 256 + b3) :: toWords rest
  | _ => []

/-- Run the compression over `n` blocks. -/
def blocks : ℕ → State → List Word → State
  | 0, s, _ => s
  | n + 1, s, ws => blocks n (compress s (ws.take 16)) (ws.drop 16)

/-- The digest as 32 bytes. -/
def digest (msg : List ℕ) : List ℕ :=
  let padded := pad msg
  let s := blocks (padded.length / 64) initial (toWords padded)
  [s.a, s.b, s.c, s.d, s.e, s.f, s.g, s.h].flatMap fun w => bigEndian 4 w.toNat

/-- A hexadecimal digit. -/
def hexDigit (n : ℕ) : Char := "0123456789abcdef".toList.getD n '0'

/-- `hexdigest()`. -/
def hexdigest (msg : List ℕ) : List Char :=
  (digest msg).flatMap fun b => [hexDigit (b / 16), hexDigit (b % 16)]

theorem bigEndian_length (k n : ℕ) : (bigEndian k n).length = k := by
  induction k generalizing n with
  | zero => rfl
  | succ k ih => simp [bigEndian, ih]

/-- A digest prints as 64 characters. -/
theorem hexdigest_length (msg : List ℕ) : (hexdigest msg).length = 64 := by
  simp [hexdigest, digest, List.length_flatMap, bigEndian_length]

example : hexdigest [0x61, 0x62, 0x63] =
    "ba7816bf8f01cfea414140de5dae2223b00361a396177a9cb410ff61f20015ad".toList := by
  decide +kernel

end C2Lab.Sha256
