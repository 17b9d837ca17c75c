import Mathlib

/-!
# Little-endian byte strings

A fixed-width unsigned integer is written as its `w` low-order bytes, least significant
byte first (`encode`), and a byte string is read back the same way (`decode`). This is
the layout of Rust's `to_le_bytes` / `from_le_bytes` and of every integer field in Borsh.

`decode_encode` reads back the value modulo `256 ^ w`; `encode_decode` rebuilds a byte
string from its value (`reverse_encode_decode_reverse` for the most significant byte first);
`decode_append` splits a read at any byte boundary. The module names nothing of the repository
it serves.
-/

set_option autoImplicit false

namespace LittleEndian

/-- The `w` low-order bytes of `n`, least significant first. -/
def encode : Nat → Nat → List UInt8
  | 0, _ => []
  | w + 1, n => UInt8.ofNat (n % 256) :: encode w (n / 256)

/-- The value of a byte string read least significant byte first. -/
def decode : List UInt8 → Nat
  | [] => 0
  | b :: bs => b.toNat + 256 * decode bs

@[simp] theorem encode_zero (n : Nat) : encode 0 n = [] := rfl

@[simp] theorem encode_succ (w n : Nat) :
    encode (w + 1) n = UInt8.ofNat (n % 256) :: encode w (n / 256) := rfl

@[simp] theorem decode_nil : decode [] = 0 := rfl

@[simp] theorem decode_cons (b : UInt8) (bs : List UInt8) :
    decode (b :: bs) = b.toNat + 256 * decode bs := rfl

@[simp] theorem length_encode (w n : Nat) : (encode w n).length = w := by
  induction w generalizing n with
  | zero => rfl
  | succ w ih => simp [ih]

theorem toNat_ofNat_mod (n : Nat) : (UInt8.ofNat (n % 256)).toNat = n % 256 := by
  have h : n % 256 < 256 := Nat.mod_lt n (by decide)
  simp [Nat.mod_eq_of_lt h]

/-- Reading back `w` written bytes gives the value modulo `256 ^ w`. -/
theorem decode_encode (w n : Nat) : decode (encode w n) = n % 256 ^ w := by
  induction w generalizing n with
  | zero => simp [Nat.mod_one]
  | succ w ih =>
    rw [encode_succ, decode_cons, ih, toNat_ofNat_mod, Nat.pow_succ, Nat.mul_comm (256 ^ w) 256,
      Nat.mod_mul]

/-- A byte string of length `w` holds a value below `256 ^ w`. -/
theorem decode_lt (bs : List UInt8) : decode bs < 256 ^ bs.length := by
  induction bs with
  | nil => simp
  | cons b bs ih =>
    have hb : b.toNat < 256 := UInt8.toNat_lt b
    rw [decode_cons, List.length_cons, Nat.pow_succ]
    omega

/-- A value below `256 ^ w` is read back exactly. -/
theorem decode_encode_of_lt {w n : Nat} (h : n < 256 ^ w) : decode (encode w n) = n := by
  rw [decode_encode, Nat.mod_eq_of_lt h]

/-- A byte string is the encoding of its own value at its own width. -/
theorem encode_decode (bs : List UInt8) : encode bs.length (decode bs) = bs := by
  induction bs with
  | nil => rfl
  | cons b bs ih =>
    have hb : b.toNat < 256 := UInt8.toNat_lt b
    have hmod : (b.toNat + 256 * decode bs) % 256 = b.toNat := by omega
    have hdiv : (b.toNat + 256 * decode bs) / 256 = decode bs := by omega
    rw [List.length_cons, encode_succ, decode_cons, hmod, hdiv, ih, UInt8.ofNat_toNat]

/-- A byte string read most significant byte first and written back the same way at its own
width is itself. -/
theorem reverse_encode_decode_reverse (bs : List UInt8) :
    (encode bs.length (decode bs.reverse)).reverse = bs := by
  rw [← List.length_reverse, encode_decode, List.reverse_reverse]

/-- Splitting a byte string splits its value at the byte boundary. -/
theorem decode_append (xs ys : List UInt8) :
    decode (xs ++ ys) = decode xs + 256 ^ xs.length * decode ys := by
  induction xs with
  | nil => simp
  | cons x xs ih =>
    rw [List.cons_append, decode_cons, decode_cons, ih, List.length_cons, Nat.pow_succ]
    ring

end LittleEndian
