import FlareStudio.Shared.Bytes

set_option autoImplicit false

namespace FlareStudio

namespace Sha256

def rotateRight (word amount : Nat) : Nat :=
  (word >>> amount ||| word <<< (32 - amount)) % 2 ^ 32

def roundConstants : List Nat := [
  0x428a2f98, 0x71374491, 0xb5c0fbcf, 0xe9b5dba5, 0x3956c25b, 0x59f111f1, 0x923f82a4, 0xab1c5ed5,
  0xd807aa98, 0x12835b01, 0x243185be, 0x550c7dc3, 0x72be5d74, 0x80deb1fe, 0x9bdc06a7, 0xc19bf174,
  0xe49b69c1, 0xefbe4786, 0x0fc19dc6, 0x240ca1cc, 0x2de92c6f, 0x4a7484aa, 0x5cb0a9dc, 0x76f988da,
  0x983e5152, 0xa831c66d, 0xb00327c8, 0xbf597fc7, 0xc6e00bf3, 0xd5a79147, 0x06ca6351, 0x14292967,
  0x27b70a85, 0x2e1b2138, 0x4d2c6dfc, 0x53380d13, 0x650a7354, 0x766a0abb, 0x81c2c92e, 0x92722c85,
  0xa2bfe8a1, 0xa81a664b, 0xc24b8b70, 0xc76c51a3, 0xd192e819, 0xd6990624, 0xf40e3585, 0x106aa070,
  0x19a4c116, 0x1e376c08, 0x2748774c, 0x34b0bcb5, 0x391c0cb3, 0x4ed8aa4a, 0x5b9cca4f, 0x682e6ff3,
  0x748f82ee, 0x78a5636f, 0x84c87814, 0x8cc70208, 0x90befffa, 0xa4506ceb, 0xbef9a3f7, 0xc67178f2]

structure State where
  a : Nat
  b : Nat
  c : Nat
  d : Nat
  e : Nat
  f : Nat
  g : Nat
  h : Nat

def State.initial : State :=
  ⟨0x6a09e667, 0xbb67ae85, 0x3c6ef372, 0xa54ff53a, 0x510e527f, 0x9b05688c, 0x1f83d9ab, 0x5be0cd19⟩

def State.words (state : State) : List Nat :=
  [state.a, state.b, state.c, state.d, state.e, state.f, state.g, state.h]

def State.add (left right : State) : State :=
  ⟨(left.a + right.a) % 2 ^ 32, (left.b + right.b) % 2 ^ 32, (left.c + right.c) % 2 ^ 32,
    (left.d + right.d) % 2 ^ 32, (left.e + right.e) % 2 ^ 32, (left.f + right.f) % 2 ^ 32,
    (left.g + right.g) % 2 ^ 32, (left.h + right.h) % 2 ^ 32⟩

-- The schedule with its latest word first, so that the word t places back is at t - 1.
def extend : Nat → List Nat → List Nat
  | 0, words => words
  | rounds + 1, words =>
    let near := words.getD 1 0
    let far := words.getD 14 0
    let word := (rotateRight near 17 ^^^ rotateRight near 19 ^^^ near >>> 10) + words.getD 6 0 +
      (rotateRight far 7 ^^^ rotateRight far 18 ^^^ far >>> 3) + words.getD 15 0
    extend rounds (word % 2 ^ 32 :: words)

def wordAt (block : Bytes) (index : Nat) : Nat := ofBigEndian ((block.drop (4 * index)).take 4)

def schedule (block : Bytes) : List Nat :=
  (extend 48 ((List.range 16).map (wordAt block)).reverse).reverse

def round (state : State) (constant word : Nat) : State :=
  let choice := (state.e &&& state.f) ^^^ ((2 ^ 32 - 1 ^^^ state.e) &&& state.g)
  let majority := (state.a &&& state.b) ^^^ (state.a &&& state.c) ^^^ (state.b &&& state.c)
  let first := state.h + (rotateRight state.e 6 ^^^ rotateRight state.e 11 ^^^
    rotateRight state.e 25) + choice + constant + word
  let second := (rotateRight state.a 2 ^^^ rotateRight state.a 13 ^^^ rotateRight state.a 22) +
    majority
  { a := (first + second) % 2 ^ 32
    b := state.a
    c := state.b
    d := state.c
    e := (state.d + first) % 2 ^ 32
    f := state.e
    g := state.f
    h := state.g }

def compress (state : State) (block : Bytes) : State :=
  state.add ((roundConstants.zip (schedule block)).foldl
    (fun rounds pair => round rounds pair.1 pair.2) state)

def absorb : Nat → State → Bytes → State
  | 0, state, _ => state
  | blocks + 1, state, bytes => absorb blocks (compress state (bytes.take 64)) (bytes.drop 64)

-- One byte 0x80, zeros up to eight bytes short of a block, and the length in bits.
def pad (bytes : Bytes) : Bytes :=
  bytes ++ 0x80 :: List.replicate ((119 - bytes.length % 64) % 64) 0 ++
    (bigEndian (8 * bytes.length % 2 ^ 64)).leftpad 8 0

def wordBytes (word : Nat) : Bytes :=
  [UInt8.ofNat (word >>> 24), UInt8.ofNat (word >>> 16), UInt8.ofNat (word >>> 8), UInt8.ofNat word]

end Sha256

@[irreducible]
def sha256 (bytes : Bytes) : FixedBytes 32 :=
  let padded := Sha256.pad bytes
  let state := Sha256.absorb (padded.length / 64) .initial padded
  ⟨state.words.flatMap Sha256.wordBytes, rfl⟩

example : ofBigEndian (sha256 (ascii "abc")).bytes =
    0xba7816bf8f01cfea414140de5dae2223b00361a396177a9cb410ff61f20015ad := by
  decide +kernel

-- A key longer than a block is hashed first.
def hmacKey (key : Bytes) : Bytes :=
  let short := if 64 < key.length then (sha256 key).bytes else key
  short.rightpad 64 0

def hmac (key message : Bytes) : FixedBytes 32 :=
  let inner := sha256 ((hmacKey key).map (· ^^^ 0x36) ++ message)
  sha256 ((hmacKey key).map (· ^^^ 0x5c) ++ inner.bytes)

example : ofBigEndian (hmac (ascii "Jefe") (ascii "what do ya want for nothing?")).bytes =
    0x5bdcc146bf60754e6a042426089575c75a003f089d2739839dec58b964ec3843 := by
  decide +kernel

end FlareStudio
