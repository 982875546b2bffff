import FlareStudio.Policy.Ecies
import FlareStudio.Shared.BlockStream

set_option autoImplicit false

namespace FlareStudio.Policy.Ecies

open FlareStudio.BlockStream

def be32 (counter : Nat) : Bytes := (bigEndian counter).leftpad 4 0

-- The specification counts its blocks from one.
def keyBlock (z : Bytes) (index : Nat) : Bytes := (sha256 (be32 (index + 1) ++ z)).bytes

def keyStream (z : Bytes) (blocks : Nat) : Bytes := stream (keyBlock z) blocks

def Derived (z : Bytes) (outputLen : Nat) (derived : Bytes) : Prop :=
  ∀ blocks, outputLen ≤ 32 * blocks → derived = (keyStream z blocks).take outputLen

@[simp]
theorem length_keyBlock (z : Bytes) (index : Nat) : (keyBlock z index).length = 32 :=
  FixedBytes.length_bytes _

@[simp]
theorem length_be32 {counter : Nat} (small : counter < 2 ^ 32) : (be32 counter).length = 4 := by
  have short : (bigEndian counter).length ≤ 4 :=
    bigEndian_length_le (lt_of_lt_of_eq small (by norm_num))
  rw [be32, List.length_leftpad]
  omega

@[simp]
theorem ofBigEndian_be32 (counter : Nat) : ofBigEndian (be32 counter) = counter := by
  rw [be32, List.leftpad, ofBigEndian_zeros, ofBigEndian_bigEndian]

theorem counterBytes_eq {counter : Nat} (small : counter < 2 ^ 32) :
    counterBytes counter = be32 counter := by
  rw [counterBytes, Nat.mod_eq_of_lt small, be32]

theorem kdfLoop_next {z out : Bytes} {outputLen written done : Nat} (more : written < outputLen)
    (counted : done + 1 < 2 ^ 32) :
    kdfLoop z outputLen out written (done + 1) =
      let part := (keyBlock z done).take (min 32 (outputLen - written))
      kdfLoop z outputLen (out.take written ++ part ++ out.drop (written + part.length))
        (written + part.length) (done + 1 + 1) := by
  have block : (sha256 (concat [counterBytes (done + 1), z])).bytes = keyBlock z done := by
    rw [concat_eq, counterBytes_eq counted, keyBlock, List.flatten_cons, List.flatten_singleton]
  have taken : ((keyBlock z done).take (min 32 (outputLen - written))).length =
      min 32 (outputLen - written) := by
    rw [List.length_take, length_keyBlock]
    omega
  rw [kdfLoop, if_pos more]
  dsimp only
  rw [block, length_keyBlock, subarray, List.drop_zero, set, taken]

theorem kdfLoop_derived {z out : Bytes} {outputLen written done : Nat}
    (sized : out.length = outputLen) (bounded : outputLen ≤ (2 ^ 32 - 1) * 32)
    (filled : Filled (keyBlock z) 32 out done written) :
    Derived z outputLen (kdfLoop z outputLen out written (done + 1)) := by
  -- on what is left to write
  induction left : outputLen - written using Nat.strong_induction_on
    generalizing out written done with
  | _ left ih =>
    by_cases more : written < outputLen
    · have counted : done + 1 < 2 ^ 32 := by
        have reached := filled.reached
        omega
      have next := filled.next (length_keyBlock z) (sized.symm ▸ more)
      rw [sized] at next
      rw [kdfLoop_next more counted]
      dsimp only at next ⊢
      have grown : 0 < ((keyBlock z done).take (min 32 (outputLen - written))).length := by
        rw [List.length_take, length_keyBlock]
        omega
      have fits : ((keyBlock z done).take (min 32 (outputLen - written))).length ≤
          outputLen - written := by
        rw [List.length_take]
        omega
      refine ih _ ?_ ?_ next rfl
      · omega
      · simp only [List.length_append, List.length_drop]
        rw [List.length_take (l := out)]
        omega
    · intro blocks enough
      rw [kdfLoop, if_neg more]
      rw [← sized] at enough more ⊢
      exact filled.eq_take (length_keyBlock z) (Nat.le_of_not_lt more) enough

theorem derived_concatKDF {z : Bytes} {outputLen : Nat}
    (bounded : outputLen ≤ (2 ^ 32 - 1) * 32) : Derived z outputLen (concatKDF z outputLen) :=
  kdfLoop_derived List.length_replicate bounded (Filled.of_nothing _)

theorem Derived.isPrefix {z short long : Bytes} {shorter longer : Nat}
    (first : Derived z shorter short) (second : Derived z longer long) (le : shorter ≤ longer) :
    short <+: long := by
  rw [first longer (by omega), second longer (by omega)]
  exact (List.take_prefix_take_left le)

/-- The loop gives the bytes the specification names, and a shorter key is the start of a longer
one. -/
theorem concatKDF_specified {z : Bytes} {outputLen : Nat}
    (bounded : outputLen ≤ (2 ^ 32 - 1) * 32) :
    Derived z outputLen (concatKDF z outputLen) ∧
      ∀ shorter, shorter ≤ outputLen → concatKDF z shorter <+: concatKDF z outputLen := by
  refine ⟨derived_concatKDF bounded, fun shorter le => ?_⟩
  exact (derived_concatKDF (le.trans bounded)).isPrefix (derived_concatKDF bounded) le

-- A length of one block and a part of the next.
theorem concatKDF_specified_forty :
    40 ≤ (2 ^ 32 - 1) * 32 ∧ Derived [7] 40 (concatKDF [7] 40) ∧
      ∀ shorter, shorter ≤ 40 → concatKDF [7] shorter <+: concatKDF [7] 40 :=
  ⟨by decide, concatKDF_specified (by decide)⟩

theorem deriveKeys_eq (z : Bytes) :
    (deriveKeys z).encryptionKey.bytes = (keyBlock z 0).take keyLen ∧
      (deriveKeys z).macKey = sha256 ((keyBlock z 0).drop keyLen) := by
  have derived : concatKDF z (2 * keyLen) = keyBlock z 0 := by
    rw [derived_concatKDF (by decide) 1 (by decide), keyStream, stream, List.range_one,
      List.flatMap_singleton]
    exact List.take_of_length_le (length_keyBlock z 0).le
  have whole : (keyBlock z 0).take (2 * keyLen) = keyBlock z 0 :=
    List.take_of_length_le (length_keyBlock z 0).le
  simp only [deriveKeys, derived, subarray, List.drop_zero, whole, and_self]

end FlareStudio.Policy.Ecies
