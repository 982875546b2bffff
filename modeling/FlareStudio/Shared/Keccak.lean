import FlareStudio.Shared.Bytes

set_option autoImplicit false

namespace FlareStudio

namespace Keccak

-- A state is one number: lane i of 25 occupies bits 64 * i up to 64 * i + 63.
abbrev Lanes := Nat

def lane (lanes : Lanes) (index : Nat) : Nat := (lanes >>> (64 * index)) % 2 ^ 64

def pack : List Nat → Lanes
  | [] => 0
  | value :: rest => value ||| (pack rest <<< 64)

def rotateLeft (value amount : Nat) : Nat :=
  (value <<< amount ||| value >>> (64 - amount)) % 2 ^ 64

def roundConstants : List Nat := [
  0x0000000000000001, 0x0000000000008082, 0x800000000000808A, 0x8000000080008000,
  0x000000000000808B, 0x0000000080000001, 0x8000000080008081, 0x8000000000008009,
  0x000000000000008A, 0x0000000000000088, 0x0000000080008009, 0x000000008000000A,
  0x000000008000808B, 0x800000000000008B, 0x8000000000008089, 0x8000000000008003,
  0x8000000000008002, 0x8000000000000080, 0x000000000000800A, 0x800000008000000A,
  0x8000000080008081, 0x8000000000008080, 0x0000000080000001, 0x8000000080008008]

-- For each lane after ρ and π, the lane it is read from and the rotation applied to it.
def rhoPiSources : List (Nat × Nat) := [
  (0, 0), (6, 44), (12, 43), (18, 21), (24, 14),
  (3, 28), (9, 20), (10, 3), (16, 45), (22, 61),
  (1, 1), (7, 6), (13, 25), (19, 8), (20, 18),
  (4, 27), (5, 36), (11, 10), (17, 15), (23, 56),
  (2, 62), (8, 55), (14, 39), (15, 41), (21, 2)]

def theta (lanes : Lanes) : Lanes :=
  let parity := ((lanes ^^^ lanes >>> 320) ^^^ (lanes >>> 640 ^^^ lanes >>> 960) ^^^
    lanes >>> 1280) % 2 ^ 320
  let effect := pack ((List.range 5).map fun x =>
    lane parity ((x + 4) % 5) ^^^ rotateLeft (lane parity ((x + 1) % 5)) 1)
  lanes ^^^ effect ^^^ effect <<< 320 ^^^ effect <<< 640 ^^^ effect <<< 960 ^^^ effect <<< 1280

def rhoPi (lanes : Lanes) : Lanes :=
  pack (rhoPiSources.map fun source => rotateLeft (lane lanes source.1) source.2)

def chi (lanes : Lanes) : Lanes :=
  pack ((List.range 25).map fun i =>
    lane lanes i ^^^
      ((2 ^ 64 - 1 ^^^ lane lanes (i / 5 * 5 + (i + 1) % 5)) &&&
        lane lanes (i / 5 * 5 + (i + 2) % 5)))

def permute (lanes : Lanes) : Lanes :=
  roundConstants.foldl (fun lanes constant => chi (rhoPi (theta lanes)) ^^^ constant) lanes

def littleEndian : Bytes → Nat
  | [] => 0
  | byte :: rest => byte.toNat ||| (littleEndian rest <<< 8)

def absorb : Nat → Lanes → Bytes → Lanes
  | 0, lanes, _ => lanes
  | blocks + 1, lanes, bytes =>
    absorb blocks (permute (lanes ^^^ littleEndian (bytes.take 136))) (bytes.drop 136)

-- The original Keccak padding: the domain byte is 0x01, not the 0x06 of SHA-3.
def pad (bytes : Bytes) : Bytes :=
  let gap := 136 - bytes.length % 136
  if gap = 1 then bytes ++ [0x81]
  else bytes ++ 0x01 :: List.replicate (gap - 2) 0 ++ [0x80]

end Keccak

@[irreducible]
def keccak256 (bytes : Bytes) : FixedBytes 32 :=
  let padded := Keccak.pad bytes
  let lanes := Keccak.absorb (padded.length / 136) 0 padded
  ⟨(List.range 32).map fun i => UInt8.ofNat (lanes >>> (8 * i) % 256), by simp⟩

example : ofBigEndian (keccak256 []).bytes =
    0xc5d2460186f7233c927e7db2dcc703c0e500b653ca82273b7bfad8045d85a470 := by
  decide +kernel

/-- No two different strings of a collection have the same digest. A digest is shorter than
most strings, so freedom from collisions is a property of the strings in play. -/
def CollisionFree (strings : Set Bytes) : Prop := Set.InjOn keccak256 strings

theorem CollisionFree.eq {strings : Set Bytes} (free : CollisionFree strings) {a b : Bytes}
    (left : a ∈ strings) (right : b ∈ strings) (same : keccak256 a = keccak256 b) : a = b :=
  free left right same

theorem CollisionFree.of_nodup {strings : List Bytes} (nodup : (strings.map keccak256).Nodup) :
    CollisionFree {bytes | bytes ∈ strings} :=
  fun _ left _ right same => List.inj_on_of_nodup_map nodup left right same

end FlareStudio
