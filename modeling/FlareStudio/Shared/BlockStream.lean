import Mathlib

set_option autoImplicit false

namespace FlareStudio.BlockStream

section Stream

variable {A : Type} (block : Nat → List A)

def stream (blocks : Nat) : List A := (List.range blocks).flatMap block

theorem stream_succ (blocks : Nat) :
    stream block (blocks + 1) = stream block blocks ++ block blocks := by
  rw [stream, List.range_succ, List.flatMap_append, List.flatMap_singleton, stream]

theorem stream_isPrefix {fewer more : Nat} (le : fewer ≤ more) :
    stream block fewer <+: stream block more := by
  induction le with
  | refl => exact List.prefix_rfl
  | step _ ih =>
    rw [stream_succ]
    exact ih.trans (List.prefix_append _ _)

variable {block} {size : Nat}

theorem length_stream (sized : ∀ index, (block index).length = size) (blocks : Nat) :
    (stream block blocks).length = size * blocks := by
  induction blocks with
  | zero => rfl
  | succ blocks ih =>
    rw [stream_succ, List.length_append, ih, sized]
    ring

theorem take_stream (sized : ∀ index, (block index).length = size) {count fewer more : Nat}
    (enough : count ≤ size * fewer) (le : fewer ≤ more) :
    (stream block more).take count = (stream block fewer).take count := by
  obtain ⟨rest, extended⟩ := stream_isPrefix block le
  rw [← extended, List.take_append_of_le_length]
  rwa [length_stream sized]

theorem take_stream_succ (sized : ∀ index, (block index).length = size) (blocks more : Nat) :
    (stream block (blocks + 1)).take (size * blocks + more) =
      stream block blocks ++ (block blocks).take more := by
  rw [stream_succ, List.take_append, length_stream sized, Nat.add_sub_cancel_left]
  congr 1
  apply List.take_of_length_le
  rw [length_stream sized]
  exact Nat.le_add_right _ _

end Stream

section Filling

variable {A : Type} {block : Nat → List A} {size : Nat}

structure Filled (block : Nat → List A) (size : Nat) (out : List A) (done written : Nat) :
    Prop where
  reached : written = min out.length (size * done)
  front : out.take written = (stream block done).take written

theorem Filled.of_nothing (out : List A) : Filled block size out 0 0 :=
  ⟨by simp, by simp⟩

theorem Filled.next (sized : ∀ index, (block index).length = size) {out : List A}
    {done written : Nat} (filled : Filled block size out done written)
    (room : written < out.length) :
    let part := (block done).take (min size (out.length - written))
    Filled block size (out.take written ++ part ++ out.drop (written + part.length)) (done + 1)
      (written + part.length) := by
  intro part
  have whole : written = size * done := by
    have reached := filled.reached
    omega
  have partLength : part.length = min size (out.length - written) := by
    rw [List.length_take, sized]
    omega
  have frontLength : (out.take written ++ part).length = written + part.length := by
    rw [List.length_append, List.length_take, min_eq_left room.le]
  constructor
  · have next : size * (done + 1) = written + size := by
      rw [whole, Nat.mul_succ]
    rw [List.length_append, frontLength, List.length_drop, next]
    omega
  · have stream : (stream block done).take written = stream block done := by
      rw [List.take_of_length_le]
      rw [length_stream sized, whole]
    rw [List.take_append_of_le_length frontLength.ge, List.take_of_length_le frontLength.le,
      filled.front, stream, whole, take_stream_succ sized, partLength]

theorem Filled.eq_take (sized : ∀ index, (block index).length = size) {out : List A}
    {done written blocks : Nat} (filled : Filled block size out done written)
    (full : out.length ≤ written) (enough : out.length ≤ size * blocks) :
    out = (stream block blocks).take out.length := by
  have reached : written = out.length := by
    have := filled.reached
    omega
  have front := filled.front
  rw [reached, List.take_length] at front
  rcases Nat.le_total done blocks with le | le
  · have within : out.length ≤ size * done := by
      have := filled.reached
      omega
    rw [take_stream sized within le]
    exact front
  · rw [← take_stream sized enough le]
    exact front

end Filling

end FlareStudio.BlockStream
