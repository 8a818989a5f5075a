/-
Layouts of values in memory.

A codec gives each value of a type the same number of bytes and reads the value back from
them.  The fields of a record lie one after the other, so that the codec of a record is
built from those of its fields and from padding; that values are read back as they were
written is then part of the codec.
-/
import Mathlib.Data.Fin.Tuple.Basic
import Mathlib.Data.List.TakeDrop
import Hdcp.Library.Bytes

namespace Hdcp.Library

/-! ### Little-endian numbers -/

/-- The `k` bytes of a number, the least significant one first. -/
def leBytes : ℕ → ℕ → List UInt8
  | 0, _ => []
  | k + 1, n => UInt8.ofNat n :: leBytes k (n / 256)

/-- The number that the bytes are read as. -/
def leNat : List UInt8 → ℕ
  | [] => 0
  | b :: bs => b.toNat + 256 * leNat bs

@[simp] lemma length_leBytes (k n : ℕ) : (leBytes k n).length = k := by
  induction k generalizing n with
  | zero => rfl
  | succ k ih => rw [leBytes, List.length_cons, ih]

lemma leNat_leBytes (k n : ℕ) : leNat (leBytes k n) = n % 256 ^ k := by
  induction k generalizing n with
  | zero => rw [leBytes, leNat, pow_zero, Nat.mod_one]
  | succ k ih =>
      rw [leBytes, leNat, ih, pow_succ', Nat.mod_mul]
      rfl

/-- A codec: the bytes of each value. -/
structure Codec (α : Type) where
  size : ℕ
  encode : α → List UInt8
  decode : List UInt8 → α
  length_encode : ∀ a, (encode a).length = size
  decode_encode : ∀ a, decode (encode a) = a

namespace Codec

variable {α β : Type}

attribute [simp] length_encode decode_encode

def uint8 : Codec UInt8 where
  size := 1
  encode n := [n]
  decode bytes := bytes.headD 0
  length_encode _ := rfl
  decode_encode _ := rfl

def bool : Codec Bool where
  size := 1
  encode b := [if b then 1 else 0]
  decode bytes := bytes.headD 0 != 0
  length_encode _ := rfl
  decode_encode b := by cases b <;> rfl

def uint16 : Codec UInt16 where
  size := 2
  encode n := leBytes 2 n.toNat
  decode bytes := UInt16.ofNat (leNat bytes)
  length_encode n := length_leBytes 2 _
  decode_encode n := by
    have hpow : 256 ^ 2 = 2 ^ 16 := rfl
    rw [leNat_leBytes, hpow, Nat.mod_eq_of_lt n.toNat_lt]
    exact UInt16.ofNat_toNat

def uint32 : Codec UInt32 where
  size := 4
  encode n := leBytes 4 n.toNat
  decode bytes := UInt32.ofNat (leNat bytes)
  length_encode n := length_leBytes 4 _
  decode_encode n := by
    have hpow : 256 ^ 4 = 2 ^ 32 := rfl
    rw [leNat_leBytes, hpow, Nat.mod_eq_of_lt n.toNat_lt]
    exact UInt32.ofNat_toNat

/-- Bytes that have no meaning. -/
def padding (k : ℕ) : Codec Unit where
  size := k
  encode _ := List.replicate k 0
  decode _ := ()
  length_encode _ := List.length_replicate
  decode_encode _ := rfl

/-- Two values, one after the other. -/
def prod (c : Codec α) (d : Codec β) : Codec (α × β) where
  size := c.size + d.size
  encode x := c.encode x.1 ++ d.encode x.2
  decode bytes := (c.decode (bytes.take c.size), d.decode (bytes.drop c.size))
  length_encode x := by rw [List.length_append, c.length_encode, d.length_encode]
  decode_encode x := by
    rw [List.take_left' (c.length_encode x.1), List.drop_left' (c.length_encode x.1),
      c.decode_encode, d.decode_encode]

/-- An array of values. -/
def array (c : Codec α) : (n : ℕ) → Codec (Fin n → α)
  | 0 =>
    { size := 0
      encode := fun _ => []
      decode := fun _ => Fin.elim0
      length_encode := fun _ => rfl
      decode_encode := fun _ => funext fun i => i.elim0 }
  | n + 1 =>
    { size := (c.prod (c.array n)).size
      encode := fun f => (c.prod (c.array n)).encode (f 0, Fin.tail f)
      decode := fun bytes =>
        Fin.cons ((c.prod (c.array n)).decode bytes).1 ((c.prod (c.array n)).decode bytes).2
      length_encode := fun f => (c.prod (c.array n)).length_encode _
      decode_encode := fun f => by rw [decode_encode, Fin.cons_self_tail] }

/-- The values of a type that is a renaming of another one. -/
def rename (c : Codec α) (f : α → β) (g : β → α) (h : ∀ b, f (g b) = b) : Codec β where
  size := c.size
  encode b := c.encode (g b)
  decode bytes := f (c.decode bytes)
  length_encode b := c.length_encode _
  decode_encode b := by rw [c.decode_encode, h]

end Codec

end Hdcp.Library
