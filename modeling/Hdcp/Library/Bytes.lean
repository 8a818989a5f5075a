/-
Byte buffers.

A pointer into memory is modelled by the bytes that follow it, at every index:
`m i` is what a read of `buf[i]` returns, also beyond the end of the buffer, where
the answer is whatever memory holds there.  Whether a read is allowed is a
statement about its index, not about the memory.  This file has the ranges of such
a memory, the big-endian fields of the binary formats and the wrap-around of the
fixed-width unsigned types.
-/
import Mathlib.Tactic.Common
import Mathlib.Algebra.Order.Ring.Nat
import Mathlib.Data.List.GetD
import Mathlib.Data.List.Range

namespace Hdcp.Library

/-- The bytes found at a pointer, by index. -/
abbrev Mem : Type := ℕ → UInt8

/-- The value kept by a `uint32_t`. -/
def u32 (n : ℕ) : ℕ := n % 2 ^ 32

/-- The value kept by a `uint16_t`. -/
def u16 (n : ℕ) : ℕ := n % 2 ^ 16

lemma u32_lt (n : ℕ) : u32 n < 2 ^ 32 := Nat.mod_lt _ (by decide)

lemma u32_of_lt {n : ℕ} (h : n < 2 ^ 32) : u32 n = n := Nat.mod_eq_of_lt h

lemma u16_of_lt {n : ℕ} (h : n < 2 ^ 16) : u16 n = n := Nat.mod_eq_of_lt h

/-! ### Ranges of bytes -/

/-- The `len` bytes from index `off` on. -/
def slice (m : Mem) (off len : ℕ) : List UInt8 := (List.range len).map fun i => m (off + i)

@[simp] lemma length_slice (m : Mem) (off len : ℕ) : (slice m off len).length = len := by
  simp [slice]

@[simp] lemma slice_zero (m : Mem) (off : ℕ) : slice m off 0 = [] := rfl

@[simp] lemma getElem_slice (m : Mem) (off len i : ℕ) (h : i < (slice m off len).length) :
    (slice m off len)[i] = m (off + i) := by
  simp [slice]

lemma getD_slice (m : Mem) (off : ℕ) {len i : ℕ} (h : i < len) (d : UInt8) :
    (slice m off len).getD i d = m (off + i) := by
  rw [List.getD_eq_getElem _ _ (by simpa using h), getElem_slice]

/-- Two ranges hold the same bytes when they are equally long and agree at every
index. -/
lemma slice_eq_iff {m m' : Mem} {off off' len len' : ℕ} :
    slice m off len = slice m' off' len' ↔
      len = len' ∧ ∀ i < len, m (off + i) = m' (off' + i) := by
  constructor
  · intro h
    obtain rfl : len = len' := by simpa using congrArg List.length h
    refine ⟨rfl, fun i hi => ?_⟩
    have := congrArg (fun l => l.getD i 0) h
    simpa only [getD_slice _ _ hi] using this
  · rintro ⟨rfl, h⟩
    refine List.map_congr_left fun i hi => h i ?_
    simpa using hi

/-- A part of a range is determined by the whole range. -/
lemma slice_congr_of_slice {m m' : Mem} {off off' len : ℕ}
    (h : slice m off len = slice m' off' len) {k n : ℕ} (hkn : k + n ≤ len) :
    slice m (off + k) n = slice m' (off' + k) n := by
  rw [slice_eq_iff] at h ⊢
  refine ⟨rfl, fun i hi => ?_⟩
  simpa [Nat.add_assoc] using h.2 (k + i) (by omega)

/-- A memory that begins with the given bytes. -/
def memOf (bytes : List UInt8) : Mem := fun i => bytes.getD i 0

lemma slice_add (m : Mem) (off a b : ℕ) :
    slice m off (a + b) = slice m off a ++ slice m (off + a) b := by
  simp [slice, List.range_add, Nat.add_assoc, Function.comp_def]

/-- The memory after `len` bytes of `src` were copied to index `off`. -/
def copyInto (m : Mem) (off : ℕ) (src : Mem) (len : ℕ) : Mem := fun i =>
  if off ≤ i ∧ i < off + len then src (i - off) else m i

lemma slice_copyInto_self (m src : Mem) (off : ℕ) {len n : ℕ} (h : n ≤ len) :
    slice (copyInto m off src len) off n = slice src 0 n := by
  rw [slice_eq_iff]
  refine ⟨rfl, fun i hi => ?_⟩
  rw [copyInto, if_pos ⟨by omega, by omega⟩, Nat.add_sub_cancel_left, Nat.zero_add]

lemma slice_copyInto_before (m src : Mem) {off' off : ℕ} (len : ℕ) {n : ℕ} (h : off' + n ≤ off) :
    slice (copyInto m off src len) off' n = slice m off' n := by
  rw [slice_eq_iff]
  refine ⟨rfl, fun i hi => ?_⟩
  rw [copyInto, if_neg (by omega)]

/-! ### Assignments -/

/-- Bytes that are stored at a place. -/
structure Assignment where
  off : ℕ
  bytes : List UInt8

def assign (m : Mem) (w : Assignment) : Mem := copyInto m w.off (memOf w.bytes) w.bytes.length

/-- The memory after some assignments, one after the other. -/
def assignAll (m : Mem) (ws : List Assignment) : Mem := ws.foldl assign m

/-- One of the assignments stores a byte there. -/
def Covered (ws : List Assignment) (k : ℕ) : Prop :=
  ∃ w ∈ ws, w.off ≤ k ∧ k < w.off + w.bytes.length

lemma assignAll_append (m : Mem) (ws ws' : List Assignment) :
    assignAll m (ws ++ ws') = assignAll (assignAll m ws) ws' := List.foldl_append

/-- What is not assigned stays. -/
lemma assignAll_of_not_covered {ws : List Assignment} {k : ℕ} (h : ¬ Covered ws k) (m : Mem) :
    assignAll m ws k = m k := by
  induction ws generalizing m with
  | nil => rfl
  | cons w ws ih =>
      have hw : ¬ (w.off ≤ k ∧ k < w.off + w.bytes.length) := fun hw => h ⟨w, .head _, hw⟩
      have hws : ¬ Covered ws k := fun ⟨w', hmem, hw'⟩ => h ⟨w', .tail _ hmem, hw'⟩
      show assignAll (assign m w) ws k = m k
      rw [ih hws, assign, copyInto, if_neg hw]

/-- What is assigned does not depend on what was there. -/
lemma assignAll_of_covered {ws : List Assignment} {k : ℕ} (h : Covered ws k) (m m' : Mem) :
    assignAll m ws k = assignAll m' ws k := by
  induction ws generalizing m m' with
  | nil => exact absurd h (by simp [Covered])
  | cons w ws ih =>
      show assignAll (assign m w) ws k = assignAll (assign m' w) ws k
      by_cases hws : Covered ws k
      · exact ih hws _ _
      · have hw : w.off ≤ k ∧ k < w.off + w.bytes.length := by
          obtain ⟨w', hmem, hw'⟩ := h
          rcases List.mem_cons.1 hmem with rfl | hmem
          · exact hw'
          · exact absurd ⟨w', hmem, hw'⟩ hws
        rw [assignAll_of_not_covered hws, assignAll_of_not_covered hws, assign, assign, copyInto,
          copyInto, if_pos hw, if_pos hw]

/-- Two memories look the same after the assignments exactly when they agree where nothing is
assigned. -/
lemma slice_assignAll_eq_iff {m m' : Mem} {ws : List Assignment} {n : ℕ} :
    slice (assignAll m ws) 0 n = slice (assignAll m' ws) 0 n ↔
      ∀ k < n, ¬ Covered ws k → m k = m' k := by
  simp only [slice_eq_iff, Nat.zero_add, true_and]
  refine forall₂_congr fun k _ => ?_
  by_cases hcovered : Covered ws k
  · simp [hcovered, assignAll_of_covered hcovered m m']
  · simp [hcovered, assignAll_of_not_covered hcovered]

/-! ### Files -/

/-- A file after `bytes` were written at the position `pos`. -/
def overwrite (file : List UInt8) (pos : ℕ) (bytes : List UInt8) : List UInt8 :=
  file.take pos ++ bytes ++ file.drop (pos + bytes.length)

@[simp] lemma overwrite_nil (file : List UInt8) (pos : ℕ) : overwrite file pos [] = file := by
  simp [overwrite]

/-- A write at the start keeps what is behind it. -/
lemma overwrite_zero (file bytes : List UInt8) :
    overwrite file 0 bytes = bytes ++ file.drop bytes.length := by
  simp [overwrite]

/-- A write that goes on where the one before ended. -/
lemma overwrite_overwrite (file xs ys : List UInt8) :
    overwrite (overwrite file 0 xs) xs.length ys = overwrite file 0 (xs ++ ys) := by
  rw [overwrite_zero, overwrite_zero, overwrite, List.take_left, List.drop_append,
    List.drop_drop, List.length_append]
  simp

/-- A write changes nothing when the bytes are there already. -/
lemma overwrite_eq_self_iff {file bytes : List UInt8} :
    overwrite file 0 bytes = file ↔ bytes <+: file := by
  rw [overwrite_zero]
  constructor
  · exact fun h => ⟨_, h⟩
  · rintro ⟨rest, rfl⟩
    rw [List.drop_left]

/-- Nothing else is in the file after a write at its start, when it was not longer. -/
lemma overwrite_eq_iff {file bytes : List UInt8} :
    overwrite file 0 bytes = bytes ↔ file.length ≤ bytes.length := by
  rw [overwrite_zero, List.append_right_eq_self, List.drop_eq_nil_iff]

/-- The given bytes are found at index `off`. -/
def Holds (m : Mem) (off : ℕ) (bytes : List UInt8) : Prop := slice m off bytes.length = bytes

@[simp] lemma holds_nil (m : Mem) (off : ℕ) : Holds m off [] := rfl

lemma holds_append {m : Mem} {off : ℕ} {xs ys : List UInt8} :
    Holds m off (xs ++ ys) ↔ Holds m off xs ∧ Holds m (off + xs.length) ys := by
  rw [Holds, List.length_append, slice_add]
  constructor
  · intro h
    exact List.append_inj h (by simp)
  · rintro ⟨h₁, h₂⟩
    rw [h₁, h₂]

lemma holds_singleton {m : Mem} {off : ℕ} {x : UInt8} : Holds m off [x] ↔ m off = x := by
  simp [Holds, slice]

lemma holds_cons {m : Mem} {off : ℕ} {x : UInt8} {xs : List UInt8} :
    Holds m off (x :: xs) ↔ m off = x ∧ Holds m (off + 1) xs := by
  rw [← List.singleton_append, holds_append, holds_singleton]
  rfl

/-- The memory that begins with some bytes holds them. -/
lemma holds_memOf (bytes : List UInt8) : Holds (memOf bytes) 0 bytes := by
  refine List.ext_getElem (by simp) fun i _ hi => ?_
  rw [getElem_slice, memOf, Nat.zero_add, List.getD_eq_getElem _ _ hi]

/-- A range of bytes is allowed in a buffer of `length` bytes when it is empty or
ends within the buffer. -/
def RangeIn (length off len : ℕ) : Prop := len = 0 ∨ off + len ≤ length

instance (length off len : ℕ) : Decidable (RangeIn length off len) :=
  inferInstanceAs (Decidable (_ ∨ _))

/-! ### Big-endian fields -/

/-- The two-byte field at index `off`. -/
def be16 (m : Mem) (off : ℕ) : ℕ := (m off).toNat <<< 8 ||| (m (off + 1)).toNat

/-- The three-byte field at index `off`. -/
def be24 (m : Mem) (off : ℕ) : ℕ :=
  ((m off).toNat <<< 16 ||| (m (off + 1)).toNat <<< 8) ||| (m (off + 2)).toNat

lemma shiftLeft_or_eq {a b k : ℕ} (h : b < 2 ^ k) : a <<< k ||| b = a * 2 ^ k + b := by
  rw [← Nat.shiftLeft_add_eq_or_of_lt h, Nat.shiftLeft_eq]

lemma toNat_lt_pow (b : UInt8) : b.toNat < 2 ^ 8 := b.toNat_lt

lemma be16_eq (m : Mem) (off : ℕ) :
    be16 m off = (m off).toNat * 256 + (m (off + 1)).toNat :=
  shiftLeft_or_eq (toNat_lt_pow _)

lemma be24_eq (m : Mem) (off : ℕ) :
    be24 m off = (m off).toNat * 65536 + (m (off + 1)).toNat * 256 + (m (off + 2)).toNat := by
  have h₁ := toNat_lt_pow (m (off + 1))
  have h₂ := toNat_lt_pow (m (off + 2))
  have hlow : (m (off + 1)).toNat <<< 8 ||| (m (off + 2)).toNat =
      (m (off + 1)).toNat * 256 + (m (off + 2)).toNat := shiftLeft_or_eq h₂
  rw [be24, Nat.or_assoc, hlow, shiftLeft_or_eq (by omega)]
  omega

/-- The bytes of a number of two bytes. -/
def beBytes16 (n : ℕ) : List UInt8 := [UInt8.ofNat (n / 256), UInt8.ofNat n]

/-- The bytes of a number of three bytes. -/
def beBytes24 (n : ℕ) : List UInt8 :=
  [UInt8.ofNat (n / 65536), UInt8.ofNat (n / 256), UInt8.ofNat n]

@[simp] lemma length_beBytes16 (n : ℕ) : (beBytes16 n).length = 2 := rfl

@[simp] lemma length_beBytes24 (n : ℕ) : (beBytes24 n).length = 3 := rfl

/-- Reading a two-byte field returns the number that was written there. -/
lemma be16_of_holds {m : Mem} {off n : ℕ} (h : Holds m off (beBytes16 n)) (hn : n < 2 ^ 16) :
    be16 m off = n := by
  simp only [beBytes16, holds_cons, holds_nil, and_true] at h
  rw [be16_eq, h.1, h.2, UInt8.toNat_ofNat', UInt8.toNat_ofNat']
  omega

/-- Reading a three-byte field returns the number that was written there. -/
lemma be24_of_holds {m : Mem} {off n : ℕ} (h : Holds m off (beBytes24 n)) (hn : n < 2 ^ 24) :
    be24 m off = n := by
  simp only [beBytes24, holds_cons, holds_nil, and_true, Nat.add_assoc, Nat.reduceAdd] at h
  rw [be24_eq, h.1, h.2.1, h.2.2, UInt8.toNat_ofNat', UInt8.toNat_ofNat', UInt8.toNat_ofNat']
  omega

lemma be24_lt (m : Mem) (off : ℕ) : be24 m off < 2 ^ 24 := by
  have h₁ := toNat_lt_pow (m off)
  have h₂ := toNat_lt_pow (m (off + 1))
  have h₃ := toNat_lt_pow (m (off + 2))
  rw [be24_eq]
  omega

end Hdcp.Library
