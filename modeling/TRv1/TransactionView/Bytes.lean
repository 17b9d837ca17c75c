import Mathlib
import TRv1.Lib.StateExcept
import TRv1.Lib.Borsh
import TRv1.Lib.ListAt

/-!
# Reading a serialized transaction in place

`bytes.rs` of the `transaction-view` crate. A transaction is parsed where it lies: every helper
reads the byte slice at a position `offset : &mut usize`, checks what it needs against the
slice's length and moves the position past what it read. Here such a helper is a program of
`Parse`, the position as state over the crate's `Result`.

Positions are natural numbers. `usize` has 64 bits and a slice is shorter than that; the source
states, for `check_remaining`, that the position is never past the end of the slice, and under
that assumption its `wrapping_sub` is the subtraction of naturals. The generic
`read_slice_data::<T>` and `unchecked_read_slice_data::<T>` are read at `T = u8`, the only element
type they are called with; `read_type::<T>` takes the size of `T` and the decoder of its bytes.
The unchecked readers never fail, so they are programs of `StateM`; reading out of bounds is
undefined behaviour in the source, where the callers' earlier checks exclude it, and reads a `0`
here.

## The bytes each helper reads

`Wire.compactU16` is the format `optimized_read_compressed_u16` accepts, as a reader of the bytes
from the position on: one byte below `0x80`, or a byte with its high bit set and a nonzero second
byte below `0x80`. It reads exactly the shortest compact-u16 encodings of the values below
`2 ^ 14` (`Wire.compactU16_encode`, `Wire.compactU16_eq_some`).

`read_compressed_u16` is the crate's plain reader, kept beside the optimised one: a loop of at
most three bytes that accepts every value of `u16`, refusing a zero byte after the first and a
third byte above `3`. It accepts exactly `Wire.encodeCompressedU16` of its value, the shortest
encoding (`readCompressedU16_eq_ok`), and the optimised reader succeeds exactly where the plain
one does with a value below `2 ^ 14`, with the same value and position
(`optimizedReadCompressedU16_eq_ok_iff`).

Each helper has one lemma that says when it succeeds and what it returns, on the bytes from its
position (`readByte_eq_ok`, `optimizedReadCompressedU16_eq_ok`, ...). The frames are proved from
these and never unfold a helper.
-/

set_option autoImplicit false

namespace TRv1.TransactionView

/-- `TransactionViewError`. -/
inductive TransactionViewError where
  | parseError
  | sanitizeError
  | addressLookupMismatch
  deriving DecidableEq, Repr

/-- A parser at a position of the serialized transaction: `offset : &mut usize` as state over
the crate's `Result`. -/
abbrev Parse (α : Type) : Type := StateT Nat (Except TransactionViewError) α

/-! ## The helpers of `bytes.rs` -/

/-- `check_remaining`: at least `numBytes` bytes from `offset` on. -/
def checkRemaining (bytes : List UInt8) (offset numBytes : Nat) :
    Except TransactionViewError Unit :=
  if numBytes > bytes.length - offset then .error .parseError else .ok ()

/-- `if cond { return Err(err) }`. -/
def failIf (c : Prop) [Decidable c] (err : TransactionViewError) : Parse Unit :=
  if c then throw err else pure ()

/-- `read_byte`: the position moves past the byte whether or not it is there. -/
def readByte (bytes : List UInt8) : Parse UInt8 := do
  let offset ← get
  set (offset + 1)
  match bytes[offset]? with
  | some value => pure value
  | none => throw .parseError

/-- `unchecked_read_byte`. -/
def uncheckedReadByte (bytes : List UInt8) : StateM Nat UInt8 := do
  let offset ← get
  set (offset + 1)
  pure (bytes.getD offset 0)

/-- `optimized_read_compressed_u16`: at most two bytes of seven bits each, low bits first; a
second byte that is zero (a longer form than needed) or has its high bit set (a third byte) is
refused. -/
def optimizedReadCompressedU16 (bytes : List UInt8) : Parse UInt16 := do
  let offset ← get
  let some byte1 := bytes[offset]? | throw .parseError
  if byte1 &&& 0x80 = 0 then
    set (offset + 1)
    pure (byte1 &&& 0x7F).toUInt16
  else
    let some byte2 := bytes[offset + 1]? | throw .parseError
    if byte2 = 0 ∨ byte2 &&& 0x80 ≠ 0 then
      throw .parseError
    else
      set (offset + 2)
      pure ((byte1 &&& 0x7F).toUInt16 ||| (byte2 &&& 0x7F).toUInt16 <<< 7)

/-- The loop of `read_compressed_u16` from its pass `i` on, with `n` of the passes of `0..3`
left: `result` and `shift` are its two accumulators, and `offset` the position the read started
at, which only a pass that returns moves. -/
def readCompressedU16Loop (bytes : List UInt8) (offset : Nat) :
    (n i : Nat) → (result shift : UInt16) → Except TransactionViewError (UInt16 × Nat)
  | 0, _, result, _ => .ok (result, offset + 3)
  | n + 1, i, result, shift =>
    match bytes[offset + i]? with
    | none => .error .parseError
    | some byte =>
      -- non-minimal encoding or overflow
      if (i > 0 ∧ byte = 0) ∨ (i = 2 ∧ byte > 3) then .error .parseError
      else
        let result := result ||| (byte &&& 0x7F).toUInt16 <<< shift
        let shift := shift + 7
        if byte &&& 0x80 = 0 then .ok (result, offset + i + 1)
        else readCompressedU16Loop bytes offset n (i + 1) result shift

/-- `read_compressed_u16`: at most three bytes of seven bits each, low bits first; a byte after
the first that is zero (a longer form than needed) or a third byte above `3` (past `u16::MAX`)
is refused. -/
def readCompressedU16 (bytes : List UInt8) : Parse UInt16 := do
  let offset ← get
  let (result, offset) ← StateT.lift (readCompressedU16Loop bytes offset 3 0 0 0)
  set offset
  pure result

/-- `advance_offset_for_array::<T>` for a `T` of `size` bytes. -/
def advanceOffsetForArray (size : Nat) (bytes : List UInt8) (numElements : UInt16) :
    Parse Unit := do
  let offset ← get
  let arrayLenBytes := numElements.toNat * size
  StateT.lift (checkRemaining bytes offset arrayLenBytes)
  set (offset + arrayLenBytes)

/-- `advance_offset_for_type::<T>` for a `T` of `size` bytes. -/
def advanceOffsetForType (size : Nat) (bytes : List UInt8) : Parse Unit := do
  let offset ← get
  StateT.lift (checkRemaining bytes offset size)
  set (offset + size)

/-- `read_slice_data::<u8>`. -/
def readSliceData (bytes : List UInt8) (numElements : UInt16) : Parse (List UInt8) := do
  let offset ← get
  advanceOffsetForArray 1 bytes numElements
  pure ((bytes.drop offset).take numElements.toNat)

/-- `unchecked_read_slice_data::<u8>`. -/
def uncheckedReadSliceData (bytes : List UInt8) (numElements : UInt16) :
    StateM Nat (List UInt8) := do
  let offset ← get
  set (offset + numElements.toNat)
  pure ((bytes.drop offset).take numElements.toNat)

/-- `read_type::<T>` for a `T` of `size` bytes that `decode` reads. -/
def readType {α : Type} (size : Nat) (decode : List UInt8 → α) (bytes : List UInt8) :
    Parse α := do
  let offset ← get
  advanceOffsetForType size bytes
  pure (decode ((bytes.drop offset).take size))

/-! ## When each helper succeeds -/

section Helpers

variable {bytes : List UInt8} {o o' : Nat}

theorem checkRemaining_eq_ok {n : Nat} :
    checkRemaining bytes o n = .ok () ↔ n ≤ bytes.length - o := by
  unfold checkRemaining
  split <;> simp_all

theorem failIf_eq_ok {c : Prop} [Decidable c] {err : TransactionViewError} {u : Unit} :
    (failIf c err).run o = .ok (u, o') ↔ ¬c ∧ o' = o :=
  StateExcept.run_guard_eq_ok_iff

theorem readByte_eq_ok {b : UInt8} :
    (readByte bytes).run o = .ok (b, o') ↔ bytes[o]? = some b ∧ o' = o + 1 := by
  simp only [readByte, StateExcept.run_get_bind, StateExcept.run_set_bind]
  cases bytes[o]? with
  | none =>
    simp only [reduceCtorEq, false_and, iff_false]
    exact StateExcept.run_throw_ne_ok
  | some v =>
    simp only [StateExcept.run_pure, Except.ok.injEq, Prod.mk.injEq, Option.some.injEq]
    exact Iff.and Iff.rfl eq_comm

theorem advanceOffsetForArray_eq_ok {size : Nat} {n : UInt16} {u : Unit} :
    (advanceOffsetForArray size bytes n).run o = .ok (u, o') ↔
      n.toNat * size ≤ bytes.length - o ∧ o' = o + n.toNat * size := by
  unfold advanceOffsetForArray
  cases h : checkRemaining bytes o (n.toNat * size) with
  | error e =>
    have hne : ¬n.toNat * size ≤ bytes.length - o := fun hle => by
      rw [checkRemaining_eq_ok.mpr hle] at h
      cases h
    simp [h, hne]
  | ok v => simp [h, checkRemaining_eq_ok.mp h, eq_comm]

theorem advanceOffsetForType_eq_ok {size : Nat} {u : Unit} :
    (advanceOffsetForType size bytes).run o = .ok (u, o') ↔
      size ≤ bytes.length - o ∧ o' = o + size := by
  unfold advanceOffsetForType
  cases h : checkRemaining bytes o size with
  | error e =>
    have hne : ¬size ≤ bytes.length - o := fun hle => by
      rw [checkRemaining_eq_ok.mpr hle] at h
      cases h
    simp [h, hne]
  | ok v => simp [h, checkRemaining_eq_ok.mp h, eq_comm]

theorem readSliceData_eq_ok {n : UInt16} {xs : List UInt8} :
    (readSliceData bytes n).run o = .ok (xs, o') ↔
      n.toNat ≤ bytes.length - o ∧ o' = o + n.toNat ∧ xs = (bytes.drop o).take n.toNat := by
  simp only [readSliceData, StateExcept.run_get_bind]
  rw [StateExcept.run_bind_eq_ok_iff]
  simp only [advanceOffsetForArray_eq_ok, Nat.mul_one, StateExcept.run_pure, Except.ok.injEq,
    Prod.mk.injEq]
  constructor
  · rintro ⟨u, s, ⟨hle, rfl⟩, rfl, rfl⟩
    exact ⟨hle, rfl, rfl⟩
  · rintro ⟨hle, rfl, rfl⟩
    exact ⟨(), _, ⟨hle, rfl⟩, rfl, rfl⟩

theorem readType_eq_ok {α : Type} {size : Nat} {decode : List UInt8 → α} {a : α} :
    (readType size decode bytes).run o = .ok (a, o') ↔
      size ≤ bytes.length - o ∧ o' = o + size ∧ a = decode ((bytes.drop o).take size) := by
  simp only [readType, StateExcept.run_get_bind]
  rw [StateExcept.run_bind_eq_ok_iff]
  simp only [advanceOffsetForType_eq_ok, StateExcept.run_pure, Except.ok.injEq, Prod.mk.injEq]
  constructor
  · rintro ⟨u, s, ⟨hle, rfl⟩, rfl, rfl⟩
    exact ⟨hle, rfl, rfl⟩
  · rintro ⟨hle, rfl, rfl⟩
    exact ⟨(), _, ⟨hle, rfl⟩, rfl, rfl⟩

@[simp] theorem uncheckedReadByte_run : (uncheckedReadByte bytes).run o = (bytes.getD o 0, o + 1) :=
  rfl

@[simp] theorem uncheckedReadSliceData_run {n : UInt16} :
    (uncheckedReadSliceData bytes n).run o = ((bytes.drop o).take n.toNat, o + n.toNat) :=
  rfl

end Helpers

/-! ## The compact-u16 format -/

namespace Wire

/-- The number of bytes the compact-u16 encoding of `n` takes. -/
def compactLen (n : Nat) : Nat := if n < 128 then 1 else 2

/-- The shortest compact-u16 encoding of `n < 2 ^ 14`: seven bits a byte, low bits first, the
high bit of the first byte set when a second follows. -/
def encodeCompactU16 (n : Nat) : List UInt8 :=
  if n < 128 then [n.toUInt8] else [(n % 128 + 128).toUInt8, (n / 128).toUInt8]

/-- What `optimized_read_compressed_u16` accepts, read off the bytes from its position. -/
def compactU16 : Borsh.Reader UInt16
  | b₁ :: rest =>
    if b₁ &&& 0x80 = 0 then some ((b₁ &&& 0x7F).toUInt16, rest)
    else
      match rest with
      | b₂ :: rest' =>
        if b₂ = 0 ∨ b₂ &&& 0x80 ≠ 0 then none
        else some ((b₁ &&& 0x7F).toUInt16 ||| (b₂ &&& 0x7F).toUInt16 <<< 7, rest')
      | [] => none
  | [] => none

@[simp] theorem length_encodeCompactU16 (n : Nat) : (encodeCompactU16 n).length = compactLen n := by
  unfold encodeCompactU16 compactLen
  split <;> rfl

theorem compactLen_pos (n : Nat) : 0 < compactLen n := by
  unfold compactLen
  split <;> omega

theorem compactLen_of_lt {n : Nat} (h : n < 128) : compactLen n = 1 := if_pos h

theorem compactLen_of_ge {n : Nat} (h : 128 ≤ n) : compactLen n = 2 := if_neg (by omega)

/-! ### The bits of a byte -/

theorem and_0x80_eq_zero (b : UInt8) : b &&& 0x80 = 0 ↔ b.toNat < 128 := by
  have hlt := b.toNat_lt
  have hbit : b.toNat &&& 2 ^ 7 = (b.toNat.testBit 7).toNat * 2 ^ 7 := Nat.and_two_pow _ _
  rw [← UInt8.toNat_inj, UInt8.toNat_and, show (0x80 : UInt8).toNat = 2 ^ 7 from rfl, hbit,
    Nat.testBit_eq_decide_div_mod_eq]
  have hdiv : b.toNat / 2 ^ 7 < 2 := by omega
  by_cases h : b.toNat < 128
  · simp [show b.toNat / 128 = 0 by omega, h]
  · simp [show b.toNat / 128 = 1 by omega, h]

theorem toNat_and_0x7F (b : UInt8) : (b &&& 0x7F).toNat = b.toNat % 128 := by
  rw [UInt8.toNat_and, show (0x7F : UInt8).toNat = 2 ^ 7 - 1 from rfl,
    Nat.and_two_pow_sub_one_eq_mod]

/-- The value of two bytes: the low seven bits of each, the second's above the first's. -/
theorem toNat_two_bytes (b₁ b₂ : UInt8) :
    ((b₁ &&& 0x7F).toUInt16 ||| (b₂ &&& 0x7F).toUInt16 <<< 7).toNat =
      b₁.toNat % 128 + 128 * (b₂.toNat % 128) := by
  have h₁ : b₁.toNat % 128 < 2 ^ 7 := Nat.mod_lt _ (by omega)
  have h₂ : b₂.toNat % 128 * 2 ^ 7 < 2 ^ 16 := by omega
  rw [UInt16.toNat_or, UInt16.toNat_shiftLeft, UInt8.toNat_toUInt16, UInt8.toNat_toUInt16,
    toNat_and_0x7F, toNat_and_0x7F, show (7 : UInt16).toNat % 16 = 7 from rfl,
    Nat.shiftLeft_eq, Nat.mod_eq_of_lt h₂, Nat.lor_comm, ← Nat.shiftLeft_eq,
    ← Nat.shiftLeft_add_eq_or_of_lt h₁, Nat.shiftLeft_eq]
  omega

theorem toNat_toUInt8_of_lt {n : Nat} (h : n < 256) : n.toUInt8.toNat = n := by
  rw [Nat.toUInt8, UInt8.toNat_ofNat', Nat.mod_eq_of_lt h]

/-! ### Round trip -/

/-- The shortest encoding of a value below `2 ^ 14` reads back, with whatever follows it left
over. -/
theorem compactU16_encode {n : Nat} (h : n < 2 ^ 14) (rest : List UInt8) :
    compactU16 (encodeCompactU16 n ++ rest) = some (UInt16.ofNat n, rest) := by
  unfold encodeCompactU16
  split
  · rename_i hn
    have hb : n.toUInt8.toNat = n := toNat_toUInt8_of_lt (by omega)
    have hhigh : n.toUInt8 &&& 0x80 = 0 := (and_0x80_eq_zero _).mpr (by omega)
    simp only [List.cons_append, List.nil_append, compactU16, if_pos hhigh, Option.some.injEq,
      Prod.mk.injEq, and_true]
    apply UInt16.toNat_inj.mp
    rw [UInt8.toNat_toUInt16, toNat_and_0x7F, hb, UInt16.toNat_ofNat']
    omega
  · rename_i hn
    have hb₁ : (n % 128 + 128).toUInt8.toNat = n % 128 + 128 := toNat_toUInt8_of_lt (by omega)
    have hb₂ : (n / 128).toUInt8.toNat = n / 128 := toNat_toUInt8_of_lt (by omega)
    -- the first byte has its high bit set; the second is nonzero and has it clear
    have hhigh₁ : ¬(n % 128 + 128).toUInt8 &&& 0x80 = 0 := by
      rw [and_0x80_eq_zero, hb₁]
      omega
    have hhigh₂ : (n / 128).toUInt8 &&& 0x80 = 0 := by
      rw [and_0x80_eq_zero, hb₂]
      omega
    have hne : (n / 128).toUInt8 ≠ 0 := by
      intro h0
      have := congrArg UInt8.toNat h0
      rw [hb₂] at this
      simp at this
      omega
    simp only [List.cons_append, List.nil_append, compactU16, if_neg hhigh₁, hne, hhigh₂, ne_eq,
      not_true_eq_false, or_self, reduceIte, Option.some.injEq, Prod.mk.injEq, and_true]
    apply UInt16.toNat_inj.mp
    rw [toNat_two_bytes, hb₁, hb₂, UInt16.toNat_ofNat']
    omega

/-- Every reading is of a value below `2 ^ 14` in its shortest encoding. -/
theorem compactU16_eq_some {bs rest : List UInt8} {v : UInt16}
    (h : compactU16 bs = some (v, rest)) :
    v.toNat < 2 ^ 14 ∧ bs = encodeCompactU16 v.toNat ++ rest := by
  match bs, h with
  | b₁ :: tail, h =>
    by_cases hhigh : b₁ &&& 0x80 = 0
    · simp only [compactU16, if_pos hhigh, Option.some.injEq, Prod.mk.injEq] at h
      obtain ⟨rfl, rfl⟩ := h
      have hb₁ := (and_0x80_eq_zero b₁).mp hhigh
      have hv : (b₁ &&& 0x7F).toUInt16.toNat = b₁.toNat := by
        rw [UInt8.toNat_toUInt16, toNat_and_0x7F, Nat.mod_eq_of_lt hb₁]
      refine ⟨by omega, ?_⟩
      rw [hv, encodeCompactU16, if_pos hb₁, List.cons_append, List.nil_append, Nat.toUInt8,
        UInt8.ofNat_toNat]
    · simp only [compactU16, if_neg hhigh] at h
      match tail, h with
      | b₂ :: rest', h =>
        simp only at h
        split at h
        · cases h
        · rename_i hb₂
          obtain ⟨rfl, rfl⟩ := Prod.mk.inj (Option.some.inj h)
          have hlt₁ := b₁.toNat_lt
          have hge₁ : 128 ≤ b₁.toNat := by
            rw [and_0x80_eq_zero] at hhigh
            omega
          have hne₂ : b₂.toNat ≠ 0 := by
            intro h0
            exact hb₂ (Or.inl (UInt8.toNat_inj.mp h0))
          have hlt₂ : b₂.toNat < 128 := by
            by_contra hge
            exact hb₂ (Or.inr (mt (and_0x80_eq_zero b₂).mp hge))
          rw [toNat_two_bytes, Nat.mod_eq_of_lt hlt₂]
          refine ⟨by omega, ?_⟩
          have hsmall : ¬(b₁.toNat % 128 + 128 * b₂.toNat < 128) := by omega
          rw [encodeCompactU16, if_neg hsmall, List.cons_append, List.cons_append, List.nil_append]
          -- the two bytes are the value's low seven bits with the high bit, then the rest
          have e₁ : ((b₁.toNat % 128 + 128 * b₂.toNat) % 128 + 128).toUInt8 = b₁ := by
            apply UInt8.toNat_inj.mp
            rw [toNat_toUInt8_of_lt (by omega)]
            omega
          have e₂ : ((b₁.toNat % 128 + 128 * b₂.toNat) / 128).toUInt8 = b₂ := by
            apply UInt8.toNat_inj.mp
            rw [toNat_toUInt8_of_lt (by omega)]
            omega
          rw [e₁, e₂]
      | [], h => cases h

/-! ### Values up to `u16::MAX` -/

theorem and_0x80_ne_zero_of_le {b : UInt8} (hb : 128 ≤ b.toNat) : ¬b &&& 0x80 = 0 :=
  fun h => by
    have := (and_0x80_eq_zero b).mp h
    omega

theorem ne_zero_of_toNat_pos {b : UInt8} (hb : 0 < b.toNat) : b ≠ 0 := fun h => by
  rw [h] at hb
  exact absurd hb (by decide)

theorem toUInt8_eq_of_eq_toNat {n : Nat} {b : UInt8} (h : n = b.toNat) : n.toUInt8 = b := by
  rw [h, Nat.toUInt8, UInt8.ofNat_toNat]

/-- The number of bytes the shortest compact-u16 encoding of `n < 2 ^ 16` takes. -/
def compressedLen (n : Nat) : Nat := if n < 2 ^ 14 then compactLen n else 3

/-- The shortest compact-u16 encoding of `n < 2 ^ 16`: that of `encodeCompactU16` below `2 ^ 14`,
and three bytes from there on. -/
def encodeCompressedU16 (n : Nat) : List UInt8 :=
  if n < 2 ^ 14 then encodeCompactU16 n
  else [(n % 128 + 128).toUInt8, (n / 128 % 128 + 128).toUInt8, (n / 2 ^ 14).toUInt8]

/-- A byte's low seven bits or-ed in `k` bits up, above a value below `2 ^ k`, add to it. -/
theorem toNat_or_byte_shiftLeft {x s : UInt16} {b : UInt8} {k : Nat} (hs : s.toNat = k)
    (hk : k < 16) (hx : x.toNat < 2 ^ k) (hb : b.toNat % 128 * 2 ^ k < 2 ^ 16) :
    (x ||| (b &&& 0x7F).toUInt16 <<< s).toNat = x.toNat + 2 ^ k * (b.toNat % 128) := by
  rw [UInt16.toNat_or, UInt16.toNat_shiftLeft, hs, Nat.mod_eq_of_lt hk, UInt8.toNat_toUInt16,
    toNat_and_0x7F, Nat.shiftLeft_eq, Nat.mod_eq_of_lt hb, Nat.lor_comm, ← Nat.shiftLeft_eq,
    ← Nat.shiftLeft_add_eq_or_of_lt hx, Nat.shiftLeft_eq, Nat.mul_comm]
  omega

theorem encodeCompressedU16_one {b : UInt8} (hb : b.toNat < 128) :
    encodeCompressedU16 b.toNat = [b] := by
  rw [encodeCompressedU16, if_pos (by omega), encodeCompactU16, if_pos hb,
    toUInt8_eq_of_eq_toNat rfl]

theorem encodeCompressedU16_two {b₁ b₂ : UInt8} (hb₁ : 128 ≤ b₁.toNat)
    (hb₂ : 0 < b₂.toNat ∧ b₂.toNat < 128) :
    encodeCompressedU16 (b₁.toNat % 128 + 128 * b₂.toNat) = [b₁, b₂] := by
  have hlt₁ := b₁.toNat_lt
  rw [encodeCompressedU16, if_pos (by omega), encodeCompactU16, if_neg (by omega)]
  -- each byte is read back from the value
  have e₁ : ((b₁.toNat % 128 + 128 * b₂.toNat) % 128 + 128).toUInt8 = b₁ :=
    toUInt8_eq_of_eq_toNat (by omega)
  have e₂ : ((b₁.toNat % 128 + 128 * b₂.toNat) / 128).toUInt8 = b₂ :=
    toUInt8_eq_of_eq_toNat (by omega)
  rw [e₁, e₂]

theorem encodeCompressedU16_three {b₁ b₂ b₃ : UInt8} (hb₁ : 128 ≤ b₁.toNat)
    (hb₂ : 128 ≤ b₂.toNat) (hb₃ : 0 < b₃.toNat ∧ b₃.toNat ≤ 3) :
    encodeCompressedU16 (b₁.toNat % 128 + 128 * (b₂.toNat % 128) + 2 ^ 14 * b₃.toNat) =
      [b₁, b₂, b₃] := by
  have hlt₁ := b₁.toNat_lt
  have hlt₂ := b₂.toNat_lt
  rw [encodeCompressedU16, if_neg (by omega)]
  -- each byte is read back from the value
  generalize hn : b₁.toNat % 128 + 128 * (b₂.toNat % 128) + 2 ^ 14 * b₃.toNat = n
  have e₁ : (n % 128 + 128).toUInt8 = b₁ := toUInt8_eq_of_eq_toNat (by omega)
  have e₂ : (n / 128 % 128 + 128).toUInt8 = b₂ := toUInt8_eq_of_eq_toNat (by omega)
  have e₃ : (n / 2 ^ 14).toUInt8 = b₃ := toUInt8_eq_of_eq_toNat (by omega)
  rw [e₁, e₂, e₃]

/-- The value after the first pass of `read_compressed_u16`. -/
theorem toNat_firstPass (b₁ : UInt8) :
    ((0 : UInt16) ||| (b₁ &&& 0x7F).toUInt16 <<< (0 : UInt16)).toNat = b₁.toNat % 128 := by
  rw [toNat_or_byte_shiftLeft (k := 0) rfl (by omega) (by decide) (by omega), UInt16.toNat_zero]
  omega

/-- The value after the second pass. -/
theorem toNat_secondPass (b₁ b₂ : UInt8) :
    ((0 : UInt16) ||| (b₁ &&& 0x7F).toUInt16 <<< (0 : UInt16) |||
        (b₂ &&& 0x7F).toUInt16 <<< ((0 : UInt16) + 7)).toNat =
      b₁.toNat % 128 + 128 * (b₂.toNat % 128) := by
  rw [toNat_or_byte_shiftLeft (k := 7) rfl (by omega) (by rw [toNat_firstPass]; omega)
    (by omega), toNat_firstPass]
  rfl

/-- The value after the third pass, of a third byte of at most two bits. -/
theorem toNat_thirdPass (b₁ b₂ b₃ : UInt8) (h₃ : b₃.toNat ≤ 3) :
    ((0 : UInt16) ||| (b₁ &&& 0x7F).toUInt16 <<< (0 : UInt16) |||
        (b₂ &&& 0x7F).toUInt16 <<< ((0 : UInt16) + 7) |||
        (b₃ &&& 0x7F).toUInt16 <<< ((0 : UInt16) + 7 + 7)).toNat =
      b₁.toNat % 128 + 128 * (b₂.toNat % 128) + 2 ^ 14 * b₃.toNat := by
  rw [toNat_or_byte_shiftLeft (k := 14) rfl (by omega) (by rw [toNat_secondPass]; omega)
    (by omega), toNat_secondPass, Nat.mod_eq_of_lt (by omega : b₃.toNat < 128)]

end Wire

/-! ## The compact-u16 reader at a position -/

section Compact

variable {bytes : List UInt8} {o o' : Nat}

/-- `optimized_read_compressed_u16` at a position is `Wire.compactU16` on the bytes from there,
moving the position past the bytes it took. -/
theorem optimizedReadCompressedU16_run_eq_ok {v : UInt16} :
    (optimizedReadCompressedU16 bytes).run o = .ok (v, o') ↔
      Wire.compactU16 (bytes.drop o) = some (v, bytes.drop (o + Wire.compactLen v.toNat)) ∧
        o' = o + Wire.compactLen v.toNat := by
  simp only [optimizedReadCompressedU16, StateExcept.run_get_bind]
  cases hd : bytes.drop o with
  | nil =>
    rw [ListAt.getElem?_of_drop_eq_nil hd]
    simp only [Wire.compactU16, reduceCtorEq, false_and, iff_false]
    exact StateExcept.run_throw_ne_ok
  | cons b₁ rest =>
    obtain ⟨h₁, hrest⟩ := ListAt.getElem?_of_drop_eq_cons hd
    rw [h₁]
    dsimp only
    by_cases hhigh : b₁ &&& 0x80 = 0
    · -- one byte: the value is below `0x80` and takes one byte
      have hlen : Wire.compactLen (b₁ &&& 0x7F).toUInt16.toNat = 1 := by
        rw [UInt8.toNat_toUInt16, Wire.toNat_and_0x7F]
        exact Wire.compactLen_of_lt (Nat.mod_lt _ (by omega))
      simp only [if_pos hhigh, Wire.compactU16, StateExcept.run_set_bind, StateExcept.run_pure,
        Except.ok.injEq, Prod.mk.injEq, Option.some.injEq]
      constructor
      · rintro ⟨rfl, rfl⟩
        rw [hlen, hrest]
        exact ⟨⟨rfl, rfl⟩, rfl⟩
      · rintro ⟨⟨rfl, -⟩, rfl⟩
        rw [hlen]
        exact ⟨rfl, rfl⟩
    · simp only [if_neg hhigh, Wire.compactU16]
      cases hrest' : rest with
      | nil =>
        have hnone : bytes[o + 1]? = none := by
          apply ListAt.getElem?_of_drop_eq_nil
          rw [hrest, hrest']
        rw [hnone]
        simp only [reduceCtorEq, false_and, iff_false]
        exact StateExcept.run_throw_ne_ok
      | cons b₂ rest' =>
        obtain ⟨h₂, hrest₂⟩ := ListAt.getElem?_of_drop_eq_cons (hrest.trans hrest')
        rw [h₂]
        dsimp only
        by_cases hbad : b₂ = 0 ∨ b₂ &&& 0x80 ≠ 0
        · simp only [if_pos hbad, reduceCtorEq, false_and, iff_false]
          exact StateExcept.run_throw_ne_ok
        · -- two bytes: the value is at least `0x80` and takes two bytes
          have hlen : Wire.compactLen
              ((b₁ &&& 0x7F).toUInt16 ||| (b₂ &&& 0x7F).toUInt16 <<< 7).toNat = 2 := by
            have hb₂ : b₂.toNat ≠ 0 := fun h0 => hbad (Or.inl (UInt8.toNat_inj.mp h0))
            rw [Wire.toNat_two_bytes]
            apply Wire.compactLen_of_ge
            have : 1 ≤ b₂.toNat % 128 := by
              have hlt : b₂.toNat < 128 := by
                by_contra hge
                exact hbad (Or.inr (mt (Wire.and_0x80_eq_zero b₂).mp hge))
              omega
            omega
          simp only [if_neg hbad, StateExcept.run_set_bind, StateExcept.run_pure,
            Except.ok.injEq, Prod.mk.injEq, Option.some.injEq]
          rw [show o + 1 + 1 = o + 2 by omega] at hrest₂
          constructor
          · rintro ⟨rfl, rfl⟩
            rw [hlen, hrest₂]
            exact ⟨⟨rfl, rfl⟩, rfl⟩
          · rintro ⟨⟨rfl, -⟩, rfl⟩
            rw [hlen]
            exact ⟨rfl, rfl⟩

/-- `optimized_read_compressed_u16` succeeds exactly on the shortest encoding of a value below
`2 ^ 14`, and moves past it. -/
theorem optimizedReadCompressedU16_eq_ok {v : UInt16} :
    (optimizedReadCompressedU16 bytes).run o = .ok (v, o') ↔
      v.toNat < 2 ^ 14 ∧ Wire.encodeCompactU16 v.toNat <+: bytes.drop o ∧
        o' = o + Wire.compactLen v.toNat := by
  rw [optimizedReadCompressedU16_run_eq_ok]
  constructor
  · rintro ⟨h, rfl⟩
    obtain ⟨hv, hbytes⟩ := Wire.compactU16_eq_some h
    exact ⟨hv, ⟨_, hbytes.symm⟩, rfl⟩
  · rintro ⟨hv, ⟨tail, htail⟩, rfl⟩
    -- the bytes after the encoding are those from the position past it
    have hrest : bytes.drop (o + Wire.compactLen v.toNat) = tail := by
      rw [← Wire.length_encodeCompactU16]
      exact ListAt.drop_add_length_of_drop_eq_append htail.symm
    refine ⟨?_, rfl⟩
    rw [← htail, hrest, Wire.compactU16_encode hv, UInt16.ofNat_toNat]

end Compact

/-! ## The plain compact-u16 reader -/

section Compressed

variable {bytes : List UInt8} {o : Nat} {b₁ b₂ b₃ : UInt8}

/-- A first byte below `0x80` is the whole value. -/
theorem readCompressedU16Loop_one (h₁ : bytes[o]? = some b₁) (hb₁ : b₁.toNat < 128) :
    readCompressedU16Loop bytes o 3 0 0 0 = .ok (UInt16.ofNat b₁.toNat, o + 1) := by
  have hhigh₁ : b₁ &&& 0x80 = 0 := (Wire.and_0x80_eq_zero b₁).mpr hb₁
  simp only [readCompressedU16Loop, Nat.add_zero, h₁, gt_iff_lt, Nat.lt_irrefl, false_and,
    OfNat.zero_ne_ofNat, or_self, if_false, hhigh₁, if_true, Nat.zero_add, Except.ok.injEq,
    Prod.mk.injEq, and_true]
  apply UInt16.toNat_inj.mp
  rw [Wire.toNat_firstPass, UInt16.toNat_ofNat_of_lt' (by rw [UInt16.size]; omega)]
  omega

/-- A first byte with its high bit set and a nonzero second byte below `0x80` are the value. -/
theorem readCompressedU16Loop_two (h₁ : bytes[o]? = some b₁) (h₂ : bytes[o + 1]? = some b₂)
    (hb₁ : 128 ≤ b₁.toNat) (hb₂ : 0 < b₂.toNat ∧ b₂.toNat < 128) :
    readCompressedU16Loop bytes o 3 0 0 0 =
      .ok (UInt16.ofNat (b₁.toNat % 128 + 128 * b₂.toNat), o + 2) := by
  have hhigh₂ : b₂ &&& 0x80 = 0 := (Wire.and_0x80_eq_zero b₂).mpr hb₂.2
  simp only [readCompressedU16Loop, Nat.add_zero, h₁, h₂, gt_iff_lt, Nat.lt_irrefl, false_and,
    OfNat.zero_ne_ofNat, or_self, if_false, Wire.and_0x80_ne_zero_of_le hb₁, Nat.zero_add,
    Nat.lt_one_iff, Wire.ne_zero_of_toNat_pos hb₂.1, and_false, hhigh₂, if_true,
    (by decide : ¬((1 : Nat) = 2)), Except.ok.injEq, Prod.mk.injEq]
  refine ⟨?_, trivial⟩
  apply UInt16.toNat_inj.mp
  have hlt₁ := b₁.toNat_lt
  rw [Wire.toNat_secondPass, UInt16.toNat_ofNat_of_lt' (by rw [UInt16.size]; omega),
    Nat.mod_eq_of_lt hb₂.2]

/-- Two bytes with their high bits set and a third byte from `1` to `3` are the value. -/
theorem readCompressedU16Loop_three (h₁ : bytes[o]? = some b₁)
    (h₂ : bytes[o + 1]? = some b₂) (h₃ : bytes[o + 2]? = some b₃) (hb₁ : 128 ≤ b₁.toNat) (hb₂ : 128 ≤ b₂.toNat)
    (hb₃ : 0 < b₃.toNat ∧ b₃.toNat ≤ 3) :
    readCompressedU16Loop bytes o 3 0 0 0 =
      .ok (UInt16.ofNat (b₁.toNat % 128 + 128 * (b₂.toNat % 128) + 2 ^ 14 * b₃.toNat),
        o + 3) := by
  have hhigh₃ : b₃ &&& 0x80 = 0 := (Wire.and_0x80_eq_zero b₃).mpr (by omega)
  have hsmall₃ : ¬b₃ > 3 := by
    rw [gt_iff_lt, UInt8.lt_iff_toNat_lt]
    exact Nat.not_lt.mpr hb₃.2
  simp only [readCompressedU16Loop, Nat.add_zero, h₁, h₂, h₃, gt_iff_lt, Nat.lt_irrefl,
    false_and, OfNat.zero_ne_ofNat, or_self, if_false, Wire.and_0x80_ne_zero_of_le hb₁,
    Wire.and_0x80_ne_zero_of_le hb₂, Nat.zero_add, Nat.lt_one_iff,
    Wire.ne_zero_of_toNat_pos (by omega : 0 < b₂.toNat), Wire.ne_zero_of_toNat_pos hb₃.1,
    and_false, hhigh₃, if_true, (by decide : ¬((1 : Nat) = 2)), hsmall₃, Except.ok.injEq,
    Prod.mk.injEq]
  refine ⟨?_, trivial⟩
  apply UInt16.toNat_inj.mp
  have hlt₁ := b₁.toNat_lt
  have hlt₂ := b₂.toNat_lt
  rw [Wire.toNat_thirdPass _ _ _ hb₃.2, UInt16.toNat_ofNat_of_lt' (by rw [UInt16.size]; omega)]

/-- Where the loop of `read_compressed_u16` succeeds, the bytes it passed are the shortest
encoding of its value. The cases are the bytes it reads, one pass each; any other byte it meets
is refused. -/
theorem readCompressedU16Loop_sound {v : UInt16} {o' : Nat}
    (h : readCompressedU16Loop bytes o 3 0 0 0 = .ok (v, o')) :
    Wire.encodeCompressedU16 v.toNat <+: bytes.drop o ∧
      o' = o + Wire.compressedLen v.toNat := by
  cases h₁ : bytes[o]? with
  | none => simp [readCompressedU16Loop, h₁] at h
  | some b₁ =>
    by_cases hb₁ : b₁.toNat < 128
    · -- one pass
      rw [readCompressedU16Loop_one h₁ hb₁] at h
      obtain ⟨rfl, rfl⟩ := Prod.mk.inj (Except.ok.inj h)
      rw [UInt16.toNat_ofNat_of_lt' (by rw [UInt16.size]; omega),
        Wire.encodeCompressedU16_one hb₁, Wire.compressedLen, if_pos (by omega),
        Wire.compactLen_of_lt hb₁]
      exact ⟨ListAt.prefix_drop_cons.mpr ⟨h₁, List.nil_prefix⟩, rfl⟩
    have hb₁' : 128 ≤ b₁.toNat := by omega
    have high₁ := Wire.and_0x80_ne_zero_of_le hb₁'
    cases h₂ : bytes[o + 1]? with
    | none => simp [readCompressedU16Loop, h₁, h₂, high₁] at h
    | some b₂ =>
      by_cases hz₂ : b₂ = 0
      · simp [readCompressedU16Loop, h₁, h₂, high₁, hz₂] at h
      have hpos₂ : 0 < b₂.toNat := Nat.pos_of_ne_zero fun h0 => hz₂ (UInt8.toNat_inj.mp h0)
      by_cases hb₂ : b₂.toNat < 128
      · -- two passes
        rw [readCompressedU16Loop_two h₁ h₂ hb₁' ⟨hpos₂, hb₂⟩] at h
        obtain ⟨rfl, rfl⟩ := Prod.mk.inj (Except.ok.inj h)
        have hlt₁ := b₁.toNat_lt
        rw [UInt16.toNat_ofNat_of_lt' (by rw [UInt16.size]; omega),
          Wire.encodeCompressedU16_two hb₁' ⟨hpos₂, hb₂⟩, Wire.compressedLen,
          if_pos (by omega), Wire.compactLen_of_ge (by omega)]
        exact ⟨ListAt.prefix_drop_cons.mpr ⟨h₁, ListAt.prefix_drop_cons.mpr ⟨h₂,
          List.nil_prefix⟩⟩, rfl⟩
      have hb₂' : 128 ≤ b₂.toNat := by omega
      have high₂ := Wire.and_0x80_ne_zero_of_le hb₂'
      cases h₃ : bytes[o + 2]? with
      | none => simp [readCompressedU16Loop, h₁, h₂, h₃, high₁, high₂, hz₂] at h
      | some b₃ =>
        by_cases hb₃ : 0 < b₃.toNat ∧ b₃.toNat ≤ 3
        · -- three passes
          rw [readCompressedU16Loop_three h₁ h₂ h₃ hb₁' hb₂' hb₃] at h
          obtain ⟨rfl, rfl⟩ := Prod.mk.inj (Except.ok.inj h)
          have hlt₁ := b₁.toNat_lt
          have hlt₂ := b₂.toNat_lt
          rw [UInt16.toNat_ofNat_of_lt' (by rw [UInt16.size]; omega),
            Wire.encodeCompressedU16_three hb₁' hb₂' hb₃, Wire.compressedLen,
            if_neg (by omega)]
          exact ⟨ListAt.prefix_drop_cons.mpr ⟨h₁, ListAt.prefix_drop_cons.mpr ⟨h₂,
            ListAt.prefix_drop_cons.mpr ⟨h₃, List.nil_prefix⟩⟩⟩, rfl⟩
        -- a third byte that is zero or past `3` is refused
        rcases Nat.eq_zero_or_pos b₃.toNat with h0 | hpos₃
        · have hz₃ : b₃ = 0 := UInt8.toNat_inj.mp h0
          simp [readCompressedU16Loop, h₁, h₂, h₃, high₁, high₂, hz₂, hz₃] at h
        · have hbig₃ : b₃ > 3 := by
            rw [gt_iff_lt, UInt8.lt_iff_toNat_lt]
            exact Nat.lt_of_not_le fun hle => hb₃ ⟨hpos₃, hle⟩
          simp [readCompressedU16Loop, h₁, h₂, h₃, high₁, high₂, hz₂, hbig₃] at h

/-- The loop reads the shortest encoding of every `u16`. The cases are the lengths of the
encoding. -/
theorem readCompressedU16Loop_encode {v : UInt16}
    (hpre : Wire.encodeCompressedU16 v.toNat <+: bytes.drop o) :
    readCompressedU16Loop bytes o 3 0 0 0 = .ok (v, o + Wire.compressedLen v.toNat) := by
  have hv := v.toNat_lt
  by_cases hv₁ : v.toNat < 128
  · -- one byte
    have hb₁ : v.toNat.toUInt8.toNat = v.toNat := Wire.toNat_toUInt8_of_lt (by omega)
    rw [Wire.encodeCompressedU16, if_pos (by omega), Wire.encodeCompactU16, if_pos hv₁] at hpre
    rw [readCompressedU16Loop_one (ListAt.prefix_drop_cons.mp hpre).1 (by omega), hb₁,
      UInt16.ofNat_toNat, Wire.compressedLen, if_pos (by omega), Wire.compactLen_of_lt hv₁]
  by_cases hv₂ : v.toNat < 2 ^ 14
  · -- two bytes
    have hb₁ : (v.toNat % 128 + 128).toUInt8.toNat = v.toNat % 128 + 128 :=
      Wire.toNat_toUInt8_of_lt (by omega)
    have hb₂ : (v.toNat / 128).toUInt8.toNat = v.toNat / 128 :=
      Wire.toNat_toUInt8_of_lt (by omega)
    rw [Wire.encodeCompressedU16, if_pos hv₂, Wire.encodeCompactU16, if_neg hv₁] at hpre
    obtain ⟨h₁, hpre₂⟩ := ListAt.prefix_drop_cons.mp hpre
    rw [readCompressedU16Loop_two h₁ (ListAt.prefix_drop_cons.mp hpre₂).1 (by omega)
        (by omega), hb₁, hb₂,
      show (v.toNat % 128 + 128) % 128 + 128 * (v.toNat / 128) = v.toNat by omega,
      UInt16.ofNat_toNat, Wire.compressedLen, if_pos hv₂, Wire.compactLen_of_ge (by omega)]
  · -- three bytes
    have hb₁ : (v.toNat % 128 + 128).toUInt8.toNat = v.toNat % 128 + 128 :=
      Wire.toNat_toUInt8_of_lt (by omega)
    have hb₂ : (v.toNat / 128 % 128 + 128).toUInt8.toNat = v.toNat / 128 % 128 + 128 :=
      Wire.toNat_toUInt8_of_lt (by omega)
    have hb₃ : (v.toNat / 2 ^ 14).toUInt8.toNat = v.toNat / 2 ^ 14 :=
      Wire.toNat_toUInt8_of_lt (by omega)
    rw [Wire.encodeCompressedU16, if_neg hv₂] at hpre
    obtain ⟨h₁, hpre₂⟩ := ListAt.prefix_drop_cons.mp hpre
    obtain ⟨h₂, hpre₃⟩ := ListAt.prefix_drop_cons.mp hpre₂
    rw [readCompressedU16Loop_three h₁ h₂ (ListAt.prefix_drop_cons.mp hpre₃).1 (by omega)
        (by omega) (by omega), hb₁, hb₂, hb₃,
      show (v.toNat % 128 + 128) % 128 + 128 * ((v.toNat / 128 % 128 + 128) % 128) +
        2 ^ 14 * (v.toNat / 2 ^ 14) = v.toNat by omega,
      UInt16.ofNat_toNat, Wire.compressedLen, if_neg hv₂]

/-- The loop of `read_compressed_u16` succeeds exactly on the shortest encoding of a `u16`
standing at its position, and returns the position past it. -/
theorem readCompressedU16Loop_eq_ok {v : UInt16} {o' : Nat} :
    readCompressedU16Loop bytes o 3 0 0 0 = .ok (v, o') ↔
      Wire.encodeCompressedU16 v.toNat <+: bytes.drop o ∧
        o' = o + Wire.compressedLen v.toNat := by
  constructor
  · exact readCompressedU16Loop_sound
  · rintro ⟨hpre, rfl⟩
    exact readCompressedU16Loop_encode hpre

/-- `read_compressed_u16` at a position is its loop from there. -/
theorem readCompressedU16_run_eq_ok {v : UInt16} {o' : Nat} :
    (readCompressedU16 bytes).run o = .ok (v, o') ↔
      readCompressedU16Loop bytes o 3 0 0 0 = .ok (v, o') := by
  simp only [readCompressedU16, StateExcept.run_get_bind]
  rw [StateExcept.run_bind_eq_ok_iff]
  constructor
  · rintro ⟨⟨r, off⟩, s, hlift, hrest⟩
    obtain ⟨hloop, rfl⟩ := StateExcept.run_lift_eq_ok.mp hlift
    simp only [StateExcept.run_set_bind, StateExcept.run_pure, Except.ok.injEq,
      Prod.mk.injEq] at hrest
    obtain ⟨rfl, rfl⟩ := hrest
    exact hloop
  · intro hloop
    exact ⟨(v, o'), o, StateExcept.run_lift_eq_ok.mpr ⟨hloop, rfl⟩, rfl⟩

/-- `read_compressed_u16` succeeds exactly on the shortest compact-u16 encoding of a `u16`
standing at the position, and moves past it. -/
theorem readCompressedU16_eq_ok {v : UInt16} {o' : Nat} :
    (readCompressedU16 bytes).run o = .ok (v, o') ↔
      Wire.encodeCompressedU16 v.toNat <+: bytes.drop o ∧
        o' = o + Wire.compressedLen v.toNat := by
  rw [readCompressedU16_run_eq_ok, readCompressedU16Loop_eq_ok]

/-- `optimized_read_compressed_u16` agrees with `read_compressed_u16` wherever it succeeds, and
succeeds exactly where `read_compressed_u16` reads a value below `2 ^ 14`: the optimisation gives
up only the three-byte encodings. -/
theorem optimizedReadCompressedU16_eq_ok_iff {v : UInt16} {o' : Nat} :
    (optimizedReadCompressedU16 bytes).run o = .ok (v, o') ↔
      (readCompressedU16 bytes).run o = .ok (v, o') ∧ v.toNat < 2 ^ 14 := by
  rw [optimizedReadCompressedU16_eq_ok, readCompressedU16_run_eq_ok, readCompressedU16Loop_eq_ok]
  constructor
  · rintro ⟨hv, hpre, rfl⟩
    rw [Wire.encodeCompressedU16, if_pos hv, Wire.compressedLen, if_pos hv]
    exact ⟨⟨hpre, rfl⟩, hv⟩
  · rintro ⟨⟨hpre, rfl⟩, hv⟩
    rw [Wire.encodeCompressedU16, if_pos hv] at hpre
    rw [Wire.compressedLen, if_pos hv]
    exact ⟨hv, hpre, rfl⟩

end Compressed

end TRv1.TransactionView
