import FlareStudio.Shared.Bytes

set_option autoImplicit false

namespace FlareStudio.Aes

-- Row r of the table holds the sixteen values for the bytes 16 * r up to 16 * r + 15.
def sboxRows : List Nat := [
  0x637c777bf26b6fc53001672bfed7ab76, 0xca82c97dfa5947f0add4a2af9ca472c0,
  0xb7fd9326363ff7cc34a5e5f171d83115, 0x04c723c31896059a071280e2eb27b275,
  0x09832c1a1b6e5aa0523bd6b329e32f84, 0x53d100ed20fcb15b6acbbe394a4c58cf,
  0xd0efaafb434d338545f9027f503c9fa8, 0x51a3408f929d38f5bcb6da2110fff3d2,
  0xcd0c13ec5f974417c4a77e3d645d1973, 0x60814fdc222a908846eeb814de5e0bdb,
  0xe0323a0a4906245cc2d3ac629195e479, 0xe7c8376d8dd54ea96c56f4ea657aae08,
  0xba78252e1ca6b4c6e8dd741f4bbd8b8a, 0x703eb5664803f60e613557b986c11d9e,
  0xe1f8981169d98e949b1e87e9ce5528df, 0x8ca1890dbfe6426841992d0fb054bb16]

def subByte (byte : Nat) : Nat :=
  sboxRows.getD (byte / 16) 0 >>> (8 * (15 - byte % 16)) % 256

def xtime (byte : Nat) : Nat :=
  if byte < 128 then 2 * byte else (2 * byte ^^^ 0x11b)

def shiftRows (state : List Nat) : List Nat :=
  (List.range 16).map fun i => state.getD ((i + 4 * (i % 4)) % 16) 0

def mixColumns (state : List Nat) : List Nat :=
  (List.range 16).map fun i =>
    let entry (row : Nat) := state.getD (i / 4 * 4 + (i + row) % 4) 0
    xtime (entry 0) ^^^ xtime (entry 1) ^^^ entry 1 ^^^ entry 2 ^^^ entry 3

def addRoundKey (state roundKey : List Nat) : List Nat := List.zipWith (· ^^^ ·) state roundKey

-- Each word of the next round key is the word before it, xored with the word four places back.
def nextRoundKey (key : List Nat) (constant : Nat) : List Nat :=
  let mask := [subByte (key.getD 13 0) ^^^ constant, subByte (key.getD 14 0),
    subByte (key.getD 15 0), subByte (key.getD 12 0)]
  (List.range 16).map fun i =>
    (List.range (i / 4 + 1)).foldl (fun byte word => byte ^^^ key.getD (4 * word + i % 4) 0)
      (mask.getD (i % 4) 0)

def rounds (state key : List Nat) : List Nat → List Nat
  | [] => state
  | constant :: rest =>
    let roundKey := nextRoundKey key constant
    let shifted := shiftRows (state.map subByte)
    -- The last round leaves out the mixing of the columns.
    let mixed := if rest = [] then shifted else mixColumns shifted
    rounds (addRoundKey mixed roundKey) roundKey rest

def encryptBlock (key block : Bytes) : Bytes :=
  let start := addRoundKey (block.map UInt8.toNat) (key.map UInt8.toNat)
  (rounds start (key.map UInt8.toNat) [1, 2, 4, 8, 16, 32, 64, 128, 27, 54]).map UInt8.ofNat

example : ofBigEndian (encryptBlock (bigEndian 0x2b7e151628aed2a6abf7158809cf4f3c)
    (bigEndian 0x3243f6a8885a308d313198a2e0370734)) = 0x3925841d02dc09fbdc118597196a0b32 := by
  decide +kernel

theorem length_rounds {state key constants : List Nat} (full : state.length = 16) :
    (rounds state key constants).length = 16 := by
  induction constants generalizing state key with
  | nil => exact full
  | cons constant rest ih =>
    rw [rounds]
    apply ih
    split_ifs <;> simp [addRoundKey, nextRoundKey, shiftRows, mixColumns]

theorem length_encryptBlock {key block : Bytes} (keyed : key.length = 16)
    (full : block.length = 16) : (encryptBlock key block).length = 16 := by
  rw [encryptBlock, List.length_map]
  exact length_rounds (by simp [addRoundKey, keyed, full])

def counterBlock (iv : Bytes) (index : Nat) : Bytes :=
  (bigEndian ((ofBigEndian iv + index) % 2 ^ 128)).leftpad 16 0

theorem length_counterBlock (iv : Bytes) (index : Nat) : (counterBlock iv index).length = 16 := by
  have short : (bigEndian ((ofBigEndian iv + index) % 2 ^ 128)).length ≤ 16 :=
    bigEndian_length_le (Nat.mod_lt _ (by decide))
  rw [counterBlock, List.length_leftpad]
  omega

def keystream (key : FixedBytes 16) (iv : Bytes) (blocks : Nat) : Bytes :=
  (List.range blocks).flatMap fun index => encryptBlock key.bytes (counterBlock iv index)

def ctr (key : FixedBytes 16) (iv message : Bytes) : Bytes :=
  List.zipWith (· ^^^ ·) message (keystream key iv ((message.length + 15) / 16))

section

variable (key : FixedBytes 16) (iv message : Bytes)

theorem length_keystream (blocks : Nat) : (keystream key iv blocks).length = 16 * blocks := by
  rw [keystream, flatMap_length fun index =>
    length_encryptBlock key.length_bytes (length_counterBlock iv index), List.length_range]

@[simp]
theorem length_ctr : (ctr key iv message).length = message.length := by
  rw [ctr, List.length_zipWith, length_keystream]
  omega

@[simp]
theorem ctr_ctr : ctr key iv (ctr key iv message) = message := by
  have long : message.length ≤ (keystream key iv ((message.length + 15) / 16)).length := by
    rw [length_keystream]
    omega
  rw [ctr, length_ctr, ctr]
  generalize keystream key iv ((message.length + 15) / 16) = stream at long
  apply List.ext_getElem
  · simp
    omega
  · intro i left right
    simp

end

end FlareStudio.Aes
