/-
  SleepSync.Lib.LittleEndian

  Little-endian integers and copies of bytes at an index: what a `memcpy`
  between an integer and a buffer does on a little-endian machine.

  `leBytes n x` are the `n` least significant bytes of `x` and `leValue` reads
  bytes back; each undoes the other up to the width.  `splice` overwrites part
  of a buffer and `slice` reads part of one; the laws say that a slice of what
  was just written is it, and that disjoint parts do not affect each other.
-/

import Mathlib.Tactic.Common
import Mathlib.Tactic.Ring

namespace Lib

abbrev Byte := BitVec 8

/-- The `n` low bytes of `x`, least significant first. -/
def leBytes : Nat → Nat → List Byte
  | 0, _ => []
  | n + 1, x => BitVec.ofNat 8 x :: leBytes n (x / 256)

/-- The integer whose bytes, least significant first, are `bs`. -/
def leValue : List Byte → Nat
  | [] => 0
  | b :: bs => b.toNat + 256 * leValue bs

-- ============================================================================
-- Integers
-- ============================================================================

@[simp] theorem leBytes_length (n x : Nat) : (leBytes n x).length = n := by
  induction n generalizing x with
  | zero => rfl
  | succ n ih =>
      rw [leBytes, List.length_cons, ih]

theorem leValue_leBytes (n x : Nat) : leValue (leBytes n x) = x % 256 ^ n := by
  induction n generalizing x with
  | zero => rw [leBytes, leValue, pow_zero, Nat.mod_one]
  | succ n ih =>
      have h_head : (BitVec.ofNat 8 x).toNat = x % 256 := BitVec.toNat_ofNat x 8
      rw [leBytes, leValue, h_head, ih, pow_succ, Nat.mul_comm (256 ^ n) 256,
        Nat.mod_mul]

theorem leBytes_leValue (bs : List Byte) : leBytes bs.length (leValue bs) = bs := by
  induction bs with
  | nil => rfl
  | cons b bs ih =>
      have h_b : b.toNat < 256 := b.isLt
      have h_div : (b.toNat + 256 * leValue bs) / 256 = leValue bs := by omega
      have h_head : BitVec.ofNat 8 (b.toNat + 256 * leValue bs) = b := by
        apply BitVec.eq_of_toNat_eq
        rw [BitVec.toNat_ofNat]
        omega
      rw [List.length_cons, leValue, leBytes, h_head, h_div, ih]

-- ============================================================================
-- Copies
-- ============================================================================

/-- The `n` bytes of `buf` from index `i`. -/
def slice (buf : List Byte) (i n : Nat) : List Byte :=
  (buf.drop i).take n

/-- `buf` with the bytes from index `i` overwritten by `bs`. -/
def splice (buf : List Byte) (i : Nat) (bs : List Byte) : List Byte :=
  buf.take i ++ bs ++ buf.drop (i + bs.length)

theorem slice_length {buf : List Byte} {i n : Nat} (h : i + n ≤ buf.length) :
    (slice buf i n).length = n := by
  rw [slice, List.length_take, List.length_drop]
  omega

theorem splice_length {buf bs : List Byte} {i : Nat} (h : i + bs.length ≤ buf.length) :
    (splice buf i bs).length = buf.length := by
  simp only [splice, List.length_append, List.length_take, List.length_drop]
  omega

/-- Reading back what was written. -/
theorem slice_splice_self {buf bs : List Byte} {i : Nat} (h : i ≤ buf.length) :
    slice (splice buf i bs) i bs.length = bs := by
  have h_take : (buf.take i).length = i := by rw [List.length_take]; omega
  rw [slice, splice, List.append_assoc, List.drop_append_of_le_length (by omega),
    List.drop_of_length_le (by omega), List.nil_append, List.take_left]

/-- A write does not reach what lies before it. -/
theorem slice_splice_before {buf bs : List Byte} {i j n : Nat} (h : j + n ≤ i)
    (h_i : i ≤ buf.length) : slice (splice buf i bs) j n = slice buf j n := by
  have h_take : (buf.take i).length = i := by rw [List.length_take]; omega
  rw [slice, splice, slice, List.append_assoc,
    List.drop_append_of_le_length (by omega),
    List.take_append_of_le_length (by rw [List.length_drop]; omega),
    List.drop_take, List.take_take]
  congr 1
  omega

/-- A write does not reach what lies after it. -/
theorem slice_splice_after {buf bs : List Byte} {i j n : Nat} (h : i + bs.length ≤ j)
    (h_i : i ≤ buf.length) : slice (splice buf i bs) j n = slice buf j n := by
  have h_take : (buf.take i).length = i := by rw [List.length_take]; omega
  have h_front : (buf.take i ++ bs).length = i + bs.length := by
    rw [List.length_append, h_take]
  rw [slice, splice, slice, List.drop_append, List.drop_of_length_le (by omega),
    List.nil_append, List.drop_drop, h_front]
  congr 2
  omega

/-- Two buffers of one length are equal when their parts are. -/
theorem eq_of_slices {n m : Nat} {buf buf' : List Byte} (h_take : buf.take n = buf'.take n)
    (h_slice : slice buf n m = slice buf' n m) :
    buf.take (n + m) = buf'.take (n + m) := by
  rw [List.take_add, List.take_add, h_take]
  exact congrArg _ h_slice

end Lib
