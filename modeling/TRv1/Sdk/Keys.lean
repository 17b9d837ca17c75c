import Mathlib
import TRv1.Lib.Borsh

/-!
# Keys, hashes and signatures

`Pubkey` and `Hash` are 32-byte arrays and `Signature` a 64-byte array in the SDK. Each is
modelled by the number its bytes spell when read most significant byte first, so that the
derived lexicographic order of the byte arrays (the order `ValidatorSet` sorts by) is the
order of the numbers. `Pubkey.toBytes` writes those bytes in array order, which is how Borsh
and `as_ref` lay a key out; `Pubkey.ofBytes` reads them back (`ofBytes_toBytes`), and
`Pubkey.reader` is the Borsh reader of a key (`reader_append`). `Hash` has the same three.
-/

set_option autoImplicit false

/-- A 32-byte public key, by the big-endian number its bytes spell. -/
structure Pubkey where
  val : Fin (2 ^ 256)
  deriving DecidableEq, Repr

/-- A 32-byte SHA-256 digest, by the big-endian number its bytes spell. -/
structure Hash where
  val : Fin (2 ^ 256)
  deriving DecidableEq, Repr

/-- A 64-byte signature, by the big-endian number its bytes spell. -/
structure Signature where
  val : Fin (2 ^ 512)
  deriving DecidableEq, Repr

/-- The widths of keys and signatures are not zero; a numeral of either elaborates through
one of these two instances. -/
instance neZero_two_pow_256 : NeZero ((2 : Nat) ^ 256) := ⟨pow_ne_zero 256 two_ne_zero⟩

instance neZero_two_pow_512 : NeZero ((2 : Nat) ^ 512) := ⟨pow_ne_zero 512 two_ne_zero⟩

namespace Pubkey

instance : LinearOrder Pubkey :=
  LinearOrder.lift' Pubkey.val (fun a b h => by cases a; cases b; cases h; rfl)

/-- The key's bytes in array order. -/
def toBytes (k : Pubkey) : List UInt8 := (LittleEndian.encode 32 k.val).reverse

/-- The key spelled by a 32-byte string. -/
def ofBytes (bs : List UInt8) : Pubkey :=
  ⟨Fin.ofNat _ (LittleEndian.decode bs.reverse)⟩

@[simp] theorem length_toBytes (k : Pubkey) : k.toBytes.length = 32 := by
  simp [toBytes]

theorem pow_256_eq : (2 : Nat) ^ 256 = 256 ^ 32 := by norm_num

theorem ofBytes_toBytes (k : Pubkey) : ofBytes k.toBytes = k := by
  rcases k with ⟨v⟩
  have h : LittleEndian.decode (LittleEndian.encode 32 v) = v :=
    LittleEndian.decode_encode_of_lt (lt_of_lt_of_eq v.isLt pow_256_eq)
  unfold ofBytes toBytes
  rw [List.reverse_reverse]
  refine congrArg Pubkey.mk (Fin.ext ?_)
  rw [Fin.val_ofNat, h, Nat.mod_eq_of_lt v.isLt]

/-- Every 32-byte string is the layout of the key it spells. -/
theorem toBytes_ofBytes {bs : List UInt8} (h : bs.length = 32) : (ofBytes bs).toBytes = bs := by
  have hlt : LittleEndian.decode bs.reverse < 2 ^ 256 := by
    have hdec := LittleEndian.decode_lt bs.reverse
    rw [List.length_reverse, h, ← pow_256_eq] at hdec
    exact hdec
  rw [ofBytes, toBytes, Fin.val_ofNat, Nat.mod_eq_of_lt hlt, ← h,
    LittleEndian.reverse_encode_decode_reverse]

/-- The Borsh reader of a key: its 32 bytes. -/
def reader : Borsh.Reader Pubkey := Borsh.map ofBytes (Borsh.bytes 32)

theorem reader_append (k : Pubkey) (rest : List UInt8) :
    reader (k.toBytes ++ rest) = some (k, rest) := by
  have hb := Borsh.bytes_append k.toBytes rest
  rw [length_toBytes] at hb
  rw [reader, Borsh.map_of_eq_some hb, ofBytes_toBytes]

/-- Fewer than 32 bytes hold no key. -/
theorem reader_eq_none {bs : List UInt8} (h : bs.length < 32) : reader bs = none := by
  rw [reader, Borsh.map_of_eq_none (Borsh.bytes_eq_none h)]

end Pubkey

namespace Hash

/-- The digest's bytes in array order. -/
def toBytes (h : Hash) : List UInt8 := (LittleEndian.encode 32 h.val).reverse

/-- The digest spelled by a 32-byte string. -/
def ofBytes (bs : List UInt8) : Hash :=
  ⟨Fin.ofNat _ (LittleEndian.decode bs.reverse)⟩

@[simp] theorem length_toBytes (h : Hash) : h.toBytes.length = 32 := by
  simp [toBytes]

theorem ofBytes_toBytes (h : Hash) : ofBytes h.toBytes = h := by
  rcases h with ⟨v⟩
  have hv : LittleEndian.decode (LittleEndian.encode 32 v) = v :=
    LittleEndian.decode_encode_of_lt (lt_of_lt_of_eq v.isLt Pubkey.pow_256_eq)
  unfold ofBytes toBytes
  rw [List.reverse_reverse]
  refine congrArg Hash.mk (Fin.ext ?_)
  rw [Fin.val_ofNat, hv, Nat.mod_eq_of_lt v.isLt]

/-- Every 32-byte string is the layout of the digest it spells. -/
theorem toBytes_ofBytes {bs : List UInt8} (h : bs.length = 32) : (ofBytes bs).toBytes = bs := by
  have hlt : LittleEndian.decode bs.reverse < 2 ^ 256 := by
    have hdec := LittleEndian.decode_lt bs.reverse
    rw [List.length_reverse, h, ← Pubkey.pow_256_eq] at hdec
    exact hdec
  rw [ofBytes, toBytes, Fin.val_ofNat, Nat.mod_eq_of_lt hlt, ← h,
    LittleEndian.reverse_encode_decode_reverse]

/-- The Borsh reader of a digest: its 32 bytes. -/
def reader : Borsh.Reader Hash := Borsh.map ofBytes (Borsh.bytes 32)

theorem reader_append (h : Hash) (rest : List UInt8) :
    reader (h.toBytes ++ rest) = some (h, rest) := by
  have hb := Borsh.bytes_append h.toBytes rest
  rw [length_toBytes] at hb
  rw [reader, Borsh.map_of_eq_some hb, ofBytes_toBytes]

/-- The all-zero digest, `Hash::default()`. -/
def default : Hash := ⟨0⟩

end Hash

namespace Signature

/-- The signature's bytes in array order. -/
def toBytes (s : Signature) : List UInt8 := (LittleEndian.encode 64 s.val).reverse

/-- The signature spelled by a 64-byte string. -/
def ofBytes (bs : List UInt8) : Signature :=
  ⟨Fin.ofNat _ (LittleEndian.decode bs.reverse)⟩

@[simp] theorem length_toBytes (s : Signature) : s.toBytes.length = 64 := by
  simp [toBytes]

theorem pow_512_eq : (2 : Nat) ^ 512 = 256 ^ 64 := by
  rw [show (256 : Nat) = 2 ^ 8 by norm_num, ← Nat.pow_mul]

theorem ofBytes_toBytes (s : Signature) : ofBytes s.toBytes = s := by
  rcases s with ⟨v⟩
  have h : LittleEndian.decode (LittleEndian.encode 64 v) = v :=
    LittleEndian.decode_encode_of_lt (lt_of_lt_of_eq v.isLt pow_512_eq)
  unfold ofBytes toBytes
  rw [List.reverse_reverse]
  refine congrArg Signature.mk (Fin.ext ?_)
  rw [Fin.val_ofNat, h, Nat.mod_eq_of_lt v.isLt]

/-- Every 64-byte string is the layout of the signature it spells. -/
theorem toBytes_ofBytes {bs : List UInt8} (h : bs.length = 64) : (ofBytes bs).toBytes = bs := by
  have hlt : LittleEndian.decode bs.reverse < 2 ^ 512 := by
    have hdec := LittleEndian.decode_lt bs.reverse
    rw [List.length_reverse, h, ← pow_512_eq] at hdec
    exact hdec
  rw [ofBytes, toBytes, Fin.val_ofNat, Nat.mod_eq_of_lt hlt, ← h,
    LittleEndian.reverse_encode_decode_reverse]

/-- The all-zero signature, `Signature::default()`. -/
def default : Signature := ⟨0⟩

end Signature
