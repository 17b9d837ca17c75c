import TRv1.Lib.LittleEndian

/-!
# Borsh readers and writers

A Borsh value is read off the front of a byte string: a `Reader` returns the value and the
bytes after it, or `none` when the bytes do not hold a value. Integers are little-endian of
their width, a `bool` is the byte `0` or `1` (any other byte is an error), fixed arrays are
their bytes, and a `Vec` is a `u32` count followed by the elements.

`deserialize_reader` leaves trailing bytes unread, which is what a `Reader` does;
`try_from_slice` also rejects trailing bytes (`tryFromSlice`).

Each primitive reader reads back what its writer wrote, with any bytes after it left over
(`uint_append`, `bool_append`, ...), and `bind_of_eq_some` chains these facts through a
structure's reader field by field. The module names nothing of the repository it serves.
-/

set_option autoImplicit false

namespace Borsh

/-- Reads a value off the front of a byte string, returning it with the bytes left over. -/
def Reader (α : Type) : Type := List UInt8 → Option (α × List UInt8)

instance : Monad Reader where
  pure a := fun bs => some (a, bs)
  bind r f := fun bs =>
    match r bs with
    | none => none
    | some (a, rest) => f a rest

section Combinators

variable {α β : Type}

@[simp] theorem pure_apply (a : α) (bs : List UInt8) : (pure a : Reader α) bs = some (a, bs) :=
  rfl

theorem bind_apply (r : Reader α) (f : α → Reader β) (bs : List UInt8) :
    (r >>= f) bs = match r bs with
      | none => none
      | some (a, rest) => f a rest := rfl

/-- A reader that succeeded hands its value and its leftover bytes to the next one. -/
theorem bind_of_eq_some {r : Reader α} {bs rest : List UInt8} {a : α} (h : r bs = some (a, rest))
    (f : α → Reader β) : (r >>= f) bs = f a rest := by
  rw [bind_apply, h]

theorem bind_of_eq_none {r : Reader α} {bs : List UInt8} (h : r bs = none) (f : α → Reader β) :
    (r >>= f) bs = none := by
  rw [bind_apply, h]

/-- Apply a function to the value read. -/
def map (f : α → β) (r : Reader α) : Reader β := fun bs => (r bs).map fun p => (f p.1, p.2)

theorem map_of_eq_some {r : Reader α} {bs rest : List UInt8} {a : α} (h : r bs = some (a, rest))
    (f : α → β) : map f r bs = some (f a, rest) := by
  simp [map, h]

/-- `try_from_slice`: read a value that takes up the whole byte string. -/
def tryFromSlice (r : Reader α) (bs : List UInt8) : Option α :=
  match r bs with
  | some (a, []) => some a
  | _ => none

theorem tryFromSlice_of_eq_some {r : Reader α} {bs : List UInt8} {a : α}
    (h : r bs = some (a, [])) : tryFromSlice r bs = some a := by
  simp [tryFromSlice, h]

end Combinators

/-! ## Primitive readers -/

/-- The next `n` bytes. -/
def bytes (n : Nat) : Reader (List UInt8) := fun bs =>
  if n ≤ bs.length then some (bs.take n, bs.drop n) else none

/-- An unsigned little-endian integer of `w` bytes. -/
def uint (w : Nat) : Reader Nat := map LittleEndian.decode (bytes w)

/-- `u8`. -/
def u8 : Reader UInt8 := map UInt8.ofNat (uint 1)

/-- `u16`. -/
def u16 : Reader UInt16 := map UInt16.ofNat (uint 2)

/-- `u32`. -/
def u32 : Reader UInt32 := map UInt32.ofNat (uint 4)

/-- `u64`. -/
def u64 : Reader UInt64 := map UInt64.ofNat (uint 8)

/-- `i64`, two's complement. -/
def i64 : Reader Int64 := map (fun n => (UInt64.ofNat n).toInt64) (uint 8)

/-- `bool`: the byte `0` or `1`; any other byte is invalid data. -/
def bool : Reader Bool
  | 0 :: rest => some (false, rest)
  | 1 :: rest => some (true, rest)
  | _ => none

/-- A reader that always fails: an enum tag no variant has. -/
def invalid {α : Type} : Reader α := fun _ => none

/-- A fixed array `[u8; n]`. -/
def array (n : Nat) : Reader (Vector UInt8 n) := fun bs =>
  if h : n ≤ bs.length then some (⟨(bs.take n).toArray, by simp [h]⟩, bs.drop n) else none

/-- An enum: a one-byte tag, then the fields of the variant `variant` reads for that tag (a tag
no variant has is invalid data). -/
def enum {α : Type} (variant : Nat → Reader α) : Reader α := do
  let tag ← u8
  variant tag.toNat

/-- `n` elements read one after another (the body of a `Vec` or of a fixed array of
readers). -/
def count {α : Type} (r : Reader α) : Nat → Reader (List α)
  | 0 => pure []
  | n + 1 => do
    let a ← r
    let as ← count r n
    pure (a :: as)

/-- `Vec<T>`: a `u32` length, then that many elements. -/
def vec {α : Type} (r : Reader α) : Reader (List α) := do
  let n ← u32
  count r n.toNat

/-! ## Writers -/

/-- `w` little-endian bytes. -/
def uintBytes (w n : Nat) : List UInt8 := LittleEndian.encode w n

/-- A `bool` byte. -/
def boolBytes (b : Bool) : List UInt8 := [if b then 1 else 0]

/-- A `Vec`: the `u32` count, then the elements. -/
def vecBytes {α : Type} (f : α → List UInt8) (as : List α) : List UInt8 :=
  uintBytes 4 as.length ++ as.flatMap f

@[simp] theorem length_uintBytes (w n : Nat) : (uintBytes w n).length = w :=
  LittleEndian.length_encode w n

@[simp] theorem length_boolBytes (b : Bool) : (boolBytes b).length = 1 := rfl

/-! ## Round trips -/

theorem bytes_append (xs rest : List UInt8) :
    bytes xs.length (xs ++ rest) = some (xs, rest) := by
  simp [bytes]

theorem uint_append {w n : Nat} (h : n < 256 ^ w) (rest : List UInt8) :
    uint w (uintBytes w n ++ rest) = some (n, rest) := by
  have hb := bytes_append (uintBytes w n) rest
  rw [length_uintBytes] at hb
  rw [uint, map_of_eq_some hb, uintBytes, LittleEndian.decode_encode_of_lt h]

theorem u8_append (x : UInt8) (rest : List UInt8) :
    u8 (uintBytes 1 x.toNat ++ rest) = some (x, rest) := by
  have h : x.toNat < 256 ^ 1 := x.toNat_lt
  rw [u8, map_of_eq_some (uint_append h rest), UInt8.ofNat_toNat]

theorem u8_cons (x : UInt8) (rest : List UInt8) : u8 (x :: rest) = some (x, rest) := by
  have h := u8_append x rest
  rwa [uintBytes, LittleEndian.encode_succ, LittleEndian.encode_zero, Nat.mod_eq_of_lt x.toNat_lt,
    UInt8.ofNat_toNat] at h

/-- An enum value is its tag byte, then its fields. -/
theorem enum_cons {α : Type} {variant : Nat → Reader α} (tag : UInt8) (rest : List UInt8) :
    enum variant (tag :: rest) = variant tag.toNat rest := by
  rw [enum, bind_of_eq_some (u8_cons tag rest)]

theorem u16_append (x : UInt16) (rest : List UInt8) :
    u16 (uintBytes 2 x.toNat ++ rest) = some (x, rest) := by
  have h : x.toNat < 256 ^ 2 := x.toNat_lt
  rw [u16, map_of_eq_some (uint_append h rest), UInt16.ofNat_toNat]

theorem u32_append (x : UInt32) (rest : List UInt8) :
    u32 (uintBytes 4 x.toNat ++ rest) = some (x, rest) := by
  have h : x.toNat < 256 ^ 4 := x.toNat_lt
  rw [u32, map_of_eq_some (uint_append h rest), UInt32.ofNat_toNat]

theorem u64_append (x : UInt64) (rest : List UInt8) :
    u64 (uintBytes 8 x.toNat ++ rest) = some (x, rest) := by
  have h : x.toNat < 256 ^ 8 := x.toNat_lt
  rw [u64, map_of_eq_some (uint_append h rest), UInt64.ofNat_toNat]

theorem i64_append (x : Int64) (rest : List UInt8) :
    i64 (uintBytes 8 x.toUInt64.toNat ++ rest) = some (x, rest) := by
  have h : x.toUInt64.toNat < 256 ^ 8 := x.toUInt64.toNat_lt
  rw [i64, map_of_eq_some (uint_append h rest), UInt64.ofNat_toNat, Int64.toInt64_toUInt64]

theorem bool_append (b : Bool) (rest : List UInt8) :
    bool (boolBytes b ++ rest) = some (b, rest) := by
  cases b with
  | false => rfl
  | true => rfl

theorem array_append {n : Nat} (v : Vector UInt8 n) (rest : List UInt8) :
    array n (v.toList ++ rest) = some (v, rest) := by
  have hlen : v.toList.length = n := v.length_toList
  have hle : n ≤ (v.toList ++ rest).length := by simp [hlen]
  rw [array, dif_pos hle]
  -- the first `n` bytes are the array's, the rest are left over
  have htake : (v.toList ++ rest).take n = v.toList := by
    rw [List.take_append_of_le_length (by omega), List.take_of_length_le (by omega)]
  have hdrop : (v.toList ++ rest).drop n = rest := by
    rw [List.drop_append_of_le_length (by omega), List.drop_of_length_le (by omega),
      List.nil_append]
  rw [hdrop]
  congr 2
  apply Vector.toArray_inj.mp
  simp only [htake, Vector.toArray_toList]

/-- Reading `n` elements back from their concatenated encodings. -/
theorem count_append {α : Type} {r : Reader α} {f : α → List UInt8}
    (hr : ∀ a rest, r (f a ++ rest) = some (a, rest)) (as : List α) (rest : List UInt8) :
    count r as.length (as.flatMap f ++ rest) = some (as, rest) := by
  induction as with
  | nil => rfl
  | cons a as ih =>
    rw [List.length_cons, count, List.flatMap_cons, List.append_assoc,
      bind_of_eq_some (hr a _), bind_of_eq_some ih]
    rfl

theorem vec_append {α : Type} {r : Reader α} {f : α → List UInt8}
    (hr : ∀ a rest, r (f a ++ rest) = some (a, rest)) (as : List α)
    (hlen : as.length < 2 ^ 32) (rest : List UInt8) :
    vec r (vecBytes f as ++ rest) = some (as, rest) := by
  have hn : (UInt32.ofNat as.length).toNat = as.length := by
    rw [UInt32.toNat_ofNat', Nat.mod_eq_of_lt hlen]
  have hu : u32 (uintBytes 4 as.length ++ (as.flatMap f ++ rest)) =
      some (UInt32.ofNat as.length, as.flatMap f ++ rest) := by
    have h := u32_append (UInt32.ofNat as.length) (as.flatMap f ++ rest)
    rwa [hn] at h
  rw [vec, vecBytes, List.append_assoc, bind_of_eq_some hu, hn]
  exact count_append hr as rest

/-! ## Widths

A reader that reads the same number of bytes whenever it succeeds takes a whole byte string
only when the string has that length (`Consumes.length_of_tryFromSlice`), and a string shorter
than a reader's first field holds no value (`bytes_eq_none`). -/

/-- `r` reads exactly `w` bytes whenever it succeeds. -/
def Consumes {α : Type} (r : Reader α) (w : Nat) : Prop :=
  ∀ bs a rest, r bs = some (a, rest) → bs.length = w + rest.length

section Widths

variable {α β : Type}

theorem consumes_pure (a : α) : Consumes (pure a : Reader α) 0 := by
  intro bs b rest h
  rw [pure_apply, Option.some.injEq, Prod.mk.injEq] at h
  rw [← h.2, Nat.zero_add]

theorem Consumes.bind {r : Reader α} {f : α → Reader β} {w w' : Nat} (hr : Consumes r w)
    (hf : ∀ a, Consumes (f a) w') : Consumes (r >>= f) (w + w') := by
  intro bs b rest h
  rw [bind_apply] at h
  cases hbs : r bs with
  | none =>
    rw [hbs] at h
    cases h
  | some p =>
    obtain ⟨a, mid⟩ := p
    rw [hbs] at h
    -- the first reader takes `w` bytes, the rest of the chain `w'` of what it left
    have h₁ := hr bs a mid hbs
    have h₂ := hf a mid b rest h
    omega

theorem Consumes.map {r : Reader α} {w : Nat} (hr : Consumes r w) (f : α → β) :
    Consumes (map f r) w := by
  intro bs b rest h
  cases hbs : r bs with
  | none => simp [Borsh.map, hbs] at h
  | some p =>
    obtain ⟨a, mid⟩ := p
    simp only [Borsh.map, hbs, Option.map_some, Option.some.injEq, Prod.mk.injEq] at h
    rw [← h.2]
    exact hr bs a mid hbs

theorem consumes_bytes (n : Nat) : Consumes (bytes n) n := by
  intro bs xs rest h
  unfold bytes at h
  split at h
  · rename_i hn
    cases h
    rw [List.length_drop]
    omega
  · cases h

theorem consumes_uint (w : Nat) : Consumes (uint w) w := (consumes_bytes w).map _

theorem consumes_u8 : Consumes u8 1 := (consumes_uint 1).map _

theorem consumes_u64 : Consumes u64 8 := (consumes_uint 8).map _

/-- A reader of a fixed width takes a whole byte string only of that width. -/
theorem Consumes.length_of_tryFromSlice {r : Reader α} {w : Nat} (hr : Consumes r w)
    {bs : List UInt8} {a : α} (h : tryFromSlice r bs = some a) : bs.length = w := by
  unfold tryFromSlice at h
  split at h
  · rename_i a' hbs
    exact (hr bs a' [] hbs).trans (Nat.add_zero w)
  · cases h

theorem bytes_eq_none {n : Nat} {bs : List UInt8} (h : bs.length < n) : bytes n bs = none := by
  rw [bytes, if_neg (Nat.not_le.mpr h)]

theorem map_of_eq_none {r : Reader α} {bs : List UInt8} (h : r bs = none) (f : α → β) :
    map f r bs = none := by
  simp [map, h]

end Widths

/-! ## Account layouts

An account holds a discriminator byte, then a Borsh value, then whatever bytes the buffer had
after it. -/

/-- `deserialize` of an account layout: the discriminator `disc`, then the value; bytes after it
are not read. -/
def deserializeTagged {α : Type} (disc : UInt8) (r : Reader α) : List UInt8 → Option α
  | b :: rest => if b = disc then (r rest).map (·.1) else none
  | [] => none

/-- `serialize_into` of an account layout: refuse a buffer shorter than `size`, else write the
discriminator and the value's bytes over the front of the buffer, keeping the rest; a value
longer than the buffer does not fit and fails to write. -/
def serializeTagged (disc : UInt8) (size : Nat) (bytes data : List UInt8) : Option (List UInt8) :=
  if data.length < size ∨ data.length < bytes.length + 1 then none
  else some (disc :: bytes ++ data.drop (bytes.length + 1))

/-- Data whose first byte is not the discriminator holds no value. -/
theorem deserializeTagged_of_head {α : Type} {disc : UInt8} {r : Reader α} {data : List UInt8}
    (h : data.head? ≠ some disc) : deserializeTagged disc r data = none := by
  cases data with
  | nil => rfl
  | cons b rest =>
    have hb : b ≠ disc := fun hb => h (by rw [hb]; rfl)
    simp [deserializeTagged, hb]

/-- What was written is read back. -/
theorem deserializeTagged_serializeTagged {α : Type} {disc : UInt8} {size : Nat} {r : Reader α}
    {a : α} {bytes data data' : List UInt8} (hr : ∀ rest, r (bytes ++ rest) = some (a, rest))
    (h : serializeTagged disc size bytes data = some data') :
    deserializeTagged disc r data' = some a := by
  unfold serializeTagged at h
  split at h
  · cases h
  · cases h
    simp [deserializeTagged, hr]

/-- A write puts the discriminator and the value's bytes before the rest of the buffer. -/
theorem serializeTagged_eq_some {disc : UInt8} {size : Nat} {bytes data data' : List UInt8}
    (h : serializeTagged disc size bytes data = some data') :
    data' = disc :: bytes ++ data.drop (bytes.length + 1) := by
  unfold serializeTagged at h
  split at h
  · cases h
  · cases h
    rfl

/-- A buffer of at least `size` bytes that the value fits in takes the write. -/
theorem serializeTagged_of_le {disc : UInt8} {size : Nat} {bytes data : List UInt8}
    (hsize : size ≤ data.length) (hbytes : bytes.length + 1 ≤ data.length) :
    serializeTagged disc size bytes data =
      some (disc :: bytes ++ data.drop (bytes.length + 1)) :=
  if_neg (by omega)

/-- What was written starts with the discriminator. -/
theorem head_serializeTagged {disc : UInt8} {size : Nat} {bytes data data' : List UInt8}
    (h : serializeTagged disc size bytes data = some data') : data'.head? = some disc := by
  unfold serializeTagged at h
  split at h
  · cases h
  · cases h
    rfl

/-- What was written under one discriminator is read as nothing under another. -/
theorem deserializeTagged_serializeTagged_ne {α : Type} {disc disc' : UInt8} {size : Nat}
    {r : Reader α} {bytes data data' : List UInt8} (hne : disc ≠ disc')
    (h : serializeTagged disc size bytes data = some data') :
    deserializeTagged disc' r data' = none := by
  apply deserializeTagged_of_head
  rw [head_serializeTagged h]
  exact fun h' => hne (Option.some.inj h')

/-- Writing keeps the length of the buffer. -/
theorem length_serializeTagged {disc : UInt8} {size : Nat} {bytes data data' : List UInt8}
    (h : serializeTagged disc size bytes data = some data') : data'.length = data.length := by
  unfold serializeTagged at h
  split at h
  · cases h
  · rename_i hlen
    cases h
    simp only [List.length_cons, List.length_append, List.length_drop]
    omega

end Borsh
