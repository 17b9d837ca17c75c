import TRv1.TransactionView.Sanitize

/-!
# What the framing pass walks over

The layout of a message's instructions and address table lookups, and what each part of
`TransactionFrame::try_new` accepts at a position in terms of it. The pass never builds the items
it walks over; here they are named, as the instructions and lookups whose bytes stand at the
positions the pass visits.

## What this module delivers

- The layouts: `Wire.shortVec` (a compact-u16 count and the bytes it counts),
  `SVMInstruction.toBytes` and `SVMMessageAddressTableLookup.toBytes`, with `WellSized` for the
  items whose counts fit in compact-u16, and `SVMInstruction.frame`, the lengths
  `InstructionsFrame::try_new` records of an instruction.

- One success lemma per part of the pass, each an iff on the bytes from its position on: the
  short vectors the loops pass over or read (`skipShortVec_eq_ok`, `skipShortVecLen_eq_ok`,
  `readShortVec_eq_ok`), one instruction and one lookup (`instructionFrame_eq_ok`,
  `lookupFrame_eq_ok`, `readLookup_eq_ok`), the loops by induction on their count
  (`instructionFrames_eq_ok`, `lookupTotals_eq_ok`) and each frame's `try_new`. The parts whose
  bodies are longer than a few reads are first rewritten into short vectors
  (`instructionFrame_eq`, `lookupFrame_eq`, `readLookup_eq`).

Both directions of each iff are used: the inversion of an accepted buffer reads the items off
the bytes, and a buffer built from items is shown to be accepted.
-/

set_option autoImplicit false

namespace TRv1.TransactionView

open StateExcept ListAt

/-! ## Layouts -/

namespace Wire

/-- A compact-u16 count followed by the bytes it counts. -/
def shortVec (xs : List UInt8) : List UInt8 := encodeCompactU16 xs.length ++ xs

@[simp] theorem length_shortVec (xs : List UInt8) :
    (shortVec xs).length = compactLen xs.length + xs.length := by
  rw [shortVec, List.length_append, length_encodeCompactU16]

/-- A count that compact-u16 holds reads back as itself. -/
theorem toNat_ofNat_of_lt {n : Nat} (h : n < 2 ^ 14) : (UInt16.ofNat n).toNat = n := by
  rw [UInt16.toNat_ofNat', Nat.mod_eq_of_lt (by omega)]

theorem compactLen_le_two (n : Nat) : compactLen n ≤ 2 := by
  rw [compactLen]
  split <;> omega

end Wire

namespace SVMInstruction

/-- The bytes of an instruction in a message: the program's index, then the account indexes and
the data, each as a short vector. -/
def toBytes (i : SVMInstruction) : List UInt8 :=
  i.programIdIndex :: (Wire.shortVec i.accounts ++ Wire.shortVec i.data)

/-- Both counts of the instruction have a compact-u16 encoding. -/
def WellSized (i : SVMInstruction) : Prop :=
  i.accounts.length < 2 ^ 14 ∧ i.data.length < 2 ^ 14

instance : DecidablePred WellSized := fun i =>
  inferInstanceAs (Decidable (i.accounts.length < 2 ^ 14 ∧ i.data.length < 2 ^ 14))

/-- The lengths `InstructionsFrame::try_new` records of the instruction. -/
def frame (i : SVMInstruction) : InstructionFrame :=
  { numAccounts := UInt16.ofNat i.accounts.length,
    dataLen := UInt16.ofNat i.data.length,
    numAccountsLen := (Wire.compactLen i.accounts.length).toUInt8,
    dataLenLen := (Wire.compactLen i.data.length).toUInt8 }

@[simp] theorem length_toBytes (i : SVMInstruction) :
    i.toBytes.length = 1 + (Wire.shortVec i.accounts).length + (Wire.shortVec i.data).length := by
  rw [toBytes, List.length_cons, List.length_append]
  omega

/-- An instruction takes at least three bytes, which `InstructionsFrame::try_new` checks of the
count before it walks the instructions. -/
theorem three_le_length_toBytes (i : SVMInstruction) : 3 ≤ i.toBytes.length := by
  have h₁ := Wire.compactLen_pos i.accounts.length
  have h₂ := Wire.compactLen_pos i.data.length
  rw [length_toBytes, Wire.length_shortVec, Wire.length_shortVec]
  omega

end SVMInstruction

namespace SVMMessageAddressTableLookup

/-- The bytes of a lookup in a message: the table's key, then the writable and the readonly
indexes as short vectors. -/
def toBytes (l : SVMMessageAddressTableLookup) : List UInt8 :=
  l.accountKey.toBytes ++ (Wire.shortVec l.writableIndexes ++ Wire.shortVec l.readonlyIndexes)

/-- Both index counts of the lookup have a compact-u16 encoding. -/
def WellSized (l : SVMMessageAddressTableLookup) : Prop :=
  l.writableIndexes.length < 2 ^ 14 ∧ l.readonlyIndexes.length < 2 ^ 14

instance : DecidablePred WellSized := fun l =>
  inferInstanceAs
    (Decidable (l.writableIndexes.length < 2 ^ 14 ∧ l.readonlyIndexes.length < 2 ^ 14))

@[simp] theorem length_toBytes (l : SVMMessageAddressTableLookup) :
    l.toBytes.length =
      32 + (Wire.shortVec l.writableIndexes).length + (Wire.shortVec l.readonlyIndexes).length := by
  rw [toBytes, List.length_append, List.length_append, Pubkey.length_toBytes]
  omega

end SVMMessageAddressTableLookup

/-! ## Short vectors at a position -/

/-- A compact-u16 count and that many bytes passed over, as `lookupFrame` does twice. -/
def skipShortVec (bytes : List UInt8) : Parse UInt16 := do
  let n ← optimizedReadCompressedU16 bytes
  advanceOffsetForArray 1 bytes n
  pure n

/-- A compact-u16 count and that many bytes passed over, with the number of bytes the count
took, as `instructionFrame` does twice. -/
def skipShortVecLen (bytes : List UInt8) : Parse (UInt16 × UInt8) := do
  let start ← get
  let n ← optimizedReadCompressedU16 bytes
  let nLen := ((← get) - start).toUInt8
  advanceOffsetForArray 1 bytes n
  pure (n, nLen)

/-- A compact-u16 count and that many bytes read, as `readLookup` does twice. -/
def readShortVec (bytes : List UInt8) : Parse (List UInt8) := do
  let n ← optimizedReadCompressedU16 bytes
  readSliceData bytes n

section ShortVec

variable {bytes : List UInt8} {o o' : Nat}

/-- A short vector stands at a position when its count does and the bytes after the count are
as many as it says. -/
theorem shortVec_prefix_drop {xs : List UInt8} :
    Wire.shortVec xs <+: bytes.drop o ↔
      Wire.encodeCompactU16 xs.length <+: bytes.drop o ∧
        xs.length ≤ bytes.length - (o + Wire.compactLen xs.length) ∧
        xs = (bytes.drop (o + Wire.compactLen xs.length)).take xs.length := by
  rw [Wire.shortVec, prefix_drop_append, Wire.length_encodeCompactU16, ← prefix_drop_iff_take]
  simp only [and_true]

/-- A compact count at a position with as many bytes after it is a short vector of those
bytes. -/
theorem exists_shortVec_of_compact {n : UInt16}
    (henc : Wire.encodeCompactU16 n.toNat <+: bytes.drop o)
    (hle : n.toNat ≤ bytes.length - (o + Wire.compactLen n.toNat)) :
    ∃ xs : List UInt8, xs.length = n.toNat ∧ Wire.shortVec xs <+: bytes.drop o ∧
      xs = (bytes.drop (o + Wire.compactLen n.toNat)).take n.toNat := by
  refine ⟨(bytes.drop (o + Wire.compactLen n.toNat)).take n.toNat, ?_, ?_, rfl⟩
  · rw [List.length_take, List.length_drop]
    omega
  · have hxs := prefix_drop_iff_take.mpr ⟨hle, rfl⟩
    rw [Wire.shortVec, prefix_drop_append, Wire.length_encodeCompactU16, hxs.2]
    exact ⟨henc, hxs.1⟩

theorem skipShortVec_eq_ok {n : UInt16} :
    (skipShortVec bytes).run o = .ok (n, o') ↔
      ∃ xs : List UInt8, xs.length < 2 ^ 14 ∧ Wire.shortVec xs <+: bytes.drop o ∧
        n = UInt16.ofNat xs.length ∧ o' = o + (Wire.shortVec xs).length := by
  simp only [skipShortVec, run_bind_eq_ok_iff, optimizedReadCompressedU16_eq_ok,
    advanceOffsetForArray_eq_ok, run_pure, Except.ok.injEq, Prod.mk.injEq, Nat.mul_one]
  constructor
  · rintro ⟨m, s, ⟨hm, henc, rfl⟩, u, s', ⟨hle, rfl⟩, rfl, rfl⟩
    obtain ⟨xs, hlen, hpre, -⟩ := exists_shortVec_of_compact henc hle
    refine ⟨xs, hlen ▸ hm, hpre, ?_, ?_⟩
    · rw [hlen, UInt16.ofNat_toNat]
    · rw [Wire.length_shortVec, hlen]
      omega
  · rintro ⟨xs, hlt, hpre, rfl, rfl⟩
    obtain ⟨henc, hle, -⟩ := shortVec_prefix_drop.mp hpre
    have hn := Wire.toNat_ofNat_of_lt hlt
    refine ⟨UInt16.ofNat xs.length, o + Wire.compactLen xs.length, ?_, (),
      o + Wire.compactLen xs.length + xs.length, ?_, rfl, ?_⟩
    · rw [hn]
      exact ⟨hlt, henc, rfl⟩
    · rw [hn]
      exact ⟨hle, rfl⟩
    · rw [Wire.length_shortVec]
      omega

theorem skipShortVecLen_eq_ok {n : UInt16} {nLen : UInt8} :
    (skipShortVecLen bytes).run o = .ok ((n, nLen), o') ↔
      ∃ xs : List UInt8, xs.length < 2 ^ 14 ∧ Wire.shortVec xs <+: bytes.drop o ∧
        n = UInt16.ofNat xs.length ∧ nLen = (Wire.compactLen xs.length).toUInt8 ∧
        o' = o + (Wire.shortVec xs).length := by
  simp only [skipShortVecLen, run_get_bind, run_bind_eq_ok_iff, optimizedReadCompressedU16_eq_ok,
    advanceOffsetForArray_eq_ok, run_pure, Except.ok.injEq, Prod.mk.injEq, Nat.mul_one]
  constructor
  · rintro ⟨m, s, ⟨hm, henc, rfl⟩, u, s', ⟨hle, rfl⟩, ⟨rfl, rfl⟩, rfl⟩
    obtain ⟨xs, hlen, hpre, -⟩ := exists_shortVec_of_compact henc hle
    refine ⟨xs, hlen ▸ hm, hpre, ?_, ?_, ?_⟩
    · rw [hlen, UInt16.ofNat_toNat]
    · rw [hlen, Nat.add_sub_cancel_left]
    · rw [Wire.length_shortVec, hlen]
      omega
  · rintro ⟨xs, hlt, hpre, rfl, rfl, rfl⟩
    obtain ⟨henc, hle, -⟩ := shortVec_prefix_drop.mp hpre
    have hn := Wire.toNat_ofNat_of_lt hlt
    refine ⟨UInt16.ofNat xs.length, o + Wire.compactLen xs.length, ?_, (),
      o + Wire.compactLen xs.length + xs.length, ?_, ?_, ?_⟩
    · rw [hn]
      exact ⟨hlt, henc, rfl⟩
    · rw [hn]
      exact ⟨hle, rfl⟩
    · rw [Nat.add_sub_cancel_left]
      exact ⟨rfl, rfl⟩
    · rw [Wire.length_shortVec]
      omega

theorem readShortVec_eq_ok {xs : List UInt8} :
    (readShortVec bytes).run o = .ok (xs, o') ↔
      xs.length < 2 ^ 14 ∧ Wire.shortVec xs <+: bytes.drop o ∧
        o' = o + (Wire.shortVec xs).length := by
  simp only [readShortVec, run_bind_eq_ok_iff, optimizedReadCompressedU16_eq_ok,
    readSliceData_eq_ok, shortVec_prefix_drop, Wire.length_shortVec]
  constructor
  · rintro ⟨n, s, ⟨hn, henc, rfl⟩, hle, rfl, rfl⟩
    have hlen : ((bytes.drop (o + Wire.compactLen n.toNat)).take n.toNat).length = n.toNat := by
      rw [List.length_take, List.length_drop]
      omega
    rw [hlen]
    exact ⟨hn, ⟨henc, hle, rfl⟩, by omega⟩
  · rintro ⟨hlt, ⟨henc, hle, hxs⟩, rfl⟩
    have hn := Wire.toNat_ofNat_of_lt hlt
    refine ⟨UInt16.ofNat xs.length, o + Wire.compactLen xs.length, ?_, ?_⟩ <;> rw [hn]
    · exact ⟨hlt, henc, rfl⟩
    · exact ⟨hle, by omega, hxs⟩

/-- A key stands at a position when 32 bytes do, and it is the key they spell. -/
theorem toBytes_prefix_drop {key : Pubkey} :
    key.toBytes <+: bytes.drop o ↔
      32 ≤ bytes.length - o ∧ key = Pubkey.ofBytes ((bytes.drop o).take 32) := by
  have htake : key.toBytes <+: bytes.drop o ↔
      32 ≤ bytes.length - o ∧ key.toBytes = (bytes.drop o).take 32 := by
    rw [← prefix_drop_iff_take, Pubkey.length_toBytes]
    exact (and_iff_left rfl).symm
  rw [htake]
  constructor
  · rintro ⟨hle, heq⟩
    exact ⟨hle, by rw [← heq, Pubkey.ofBytes_toBytes]⟩
  · rintro ⟨hle, rfl⟩
    have hlen : ((bytes.drop o).take 32).length = 32 := by
      rw [List.length_take, List.length_drop]
      omega
    exact ⟨hle, Pubkey.toBytes_ofBytes hlen⟩

end ShortVec

/-! ## One instruction and one lookup -/

/-- The body of the instructions loop: a program index and two short vectors passed over. -/
theorem instructionFrame_eq (bytes : List UInt8) :
    instructionFrame bytes = (do
      let _ ← readByte bytes
      let (numAccounts, numAccountsLen) ← skipShortVecLen bytes
      let (dataLen, dataLenLen) ← skipShortVecLen bytes
      pure { numAccounts, dataLen, numAccountsLen, dataLenLen }) := by
  simp only [instructionFrame, skipShortVecLen, bind_assoc, pure_bind]

/-- The body of the lookups loop: a key and two short vectors passed over. -/
theorem lookupFrame_eq (bytes : List UInt8) :
    lookupFrame bytes = (do
      advanceOffsetForType 32 bytes
      let numWriteAccounts ← skipShortVec bytes
      let numReadAccounts ← skipShortVec bytes
      pure (numWriteAccounts, numReadAccounts)) := by
  simp only [lookupFrame, skipShortVec, bind_assoc, pure_bind]

/-- The body of `AddressTableLookupIterator::next`: a key and two short vectors read. -/
theorem readLookup_eq (bytes : List UInt8) :
    AddressTableLookupIterator.readLookup bytes = (do
      let accountKey ← readType 32 Pubkey.ofBytes bytes
      let writableIndexes ← readShortVec bytes
      let readonlyIndexes ← readShortVec bytes
      pure { accountKey, writableIndexes, readonlyIndexes }) := by
  simp only [AddressTableLookupIterator.readLookup, readShortVec, bind_assoc]

section Items

variable {bytes : List UInt8} {o o' : Nat}

/-- One step of the instructions loop walks over one instruction and records its lengths. -/
theorem instructionFrame_eq_ok {f : InstructionFrame} :
    (instructionFrame bytes).run o = .ok (f, o') ↔
      ∃ i : SVMInstruction, i.WellSized ∧ i.toBytes <+: bytes.drop o ∧ f = i.frame ∧
        o' = o + i.toBytes.length := by
  rw [instructionFrame_eq]
  simp only [run_bind_eq_ok_iff, Prod.exists, readByte_eq_ok, skipShortVecLen_eq_ok, run_pure,
    Except.ok.injEq, Prod.mk.injEq]
  constructor
  · rintro ⟨pid, s₁, ⟨hpid, rfl⟩, n, nLen, s₂, ⟨xs, hxs, hxpre, rfl, rfl, rfl⟩, d, dLen, s₃,
      ⟨ys, hys, hypre, rfl, rfl, rfl⟩, rfl, rfl⟩
    refine ⟨⟨pid, xs, ys⟩, ⟨hxs, hys⟩, ?_, rfl, ?_⟩
    · rw [SVMInstruction.toBytes, prefix_drop_cons, prefix_drop_append]
      exact ⟨hpid, hxpre, hypre⟩
    · simp only [SVMInstruction.length_toBytes]
      omega
  · rintro ⟨⟨pid, xs, ys⟩, ⟨hxs, hys⟩, hpre, rfl, rfl⟩
    rw [SVMInstruction.toBytes, prefix_drop_cons, prefix_drop_append] at hpre
    obtain ⟨hpid, hxpre, hypre⟩ := hpre
    refine ⟨pid, o + 1, ⟨hpid, rfl⟩, _, _, _, ⟨xs, hxs, hxpre, rfl, rfl, rfl⟩, _, _, _,
      ⟨ys, hys, hypre, rfl, rfl, rfl⟩, rfl, ?_⟩
    simp only [SVMInstruction.length_toBytes]
    omega

/-- One step of the lookups loop walks over one lookup and counts its indexes. -/
theorem lookupFrame_eq_ok {w r : UInt16} :
    (lookupFrame bytes).run o = .ok ((w, r), o') ↔
      ∃ l : SVMMessageAddressTableLookup, l.WellSized ∧ l.toBytes <+: bytes.drop o ∧
        w = UInt16.ofNat l.writableIndexes.length ∧ r = UInt16.ofNat l.readonlyIndexes.length ∧
        o' = o + l.toBytes.length := by
  rw [lookupFrame_eq]
  simp only [run_bind_eq_ok_iff, advanceOffsetForType_eq_ok, skipShortVec_eq_ok, run_pure,
    Except.ok.injEq, Prod.mk.injEq]
  constructor
  · rintro ⟨u, s₁, ⟨hkey, rfl⟩, n, s₂, ⟨xs, hxs, hxpre, rfl, rfl⟩, m, s₃,
      ⟨ys, hys, hypre, rfl, rfl⟩, ⟨rfl, rfl⟩, rfl⟩
    refine ⟨⟨Pubkey.ofBytes ((bytes.drop o).take 32), xs, ys⟩, ⟨hxs, hys⟩, ?_, rfl, rfl, ?_⟩
    · rw [SVMMessageAddressTableLookup.toBytes, prefix_drop_append, prefix_drop_append,
        Pubkey.length_toBytes, toBytes_prefix_drop]
      exact ⟨⟨hkey, rfl⟩, hxpre, hypre⟩
    · simp only [SVMMessageAddressTableLookup.length_toBytes]
      omega
  · rintro ⟨⟨key, xs, ys⟩, ⟨hxs, hys⟩, hpre, rfl, rfl, rfl⟩
    rw [SVMMessageAddressTableLookup.toBytes, prefix_drop_append, prefix_drop_append,
      Pubkey.length_toBytes, toBytes_prefix_drop] at hpre
    obtain ⟨⟨hkey, -⟩, hxpre, hypre⟩ := hpre
    refine ⟨(), o + 32, ⟨hkey, rfl⟩, _, _, ⟨xs, hxs, hxpre, rfl, rfl⟩, _, _,
      ⟨ys, hys, hypre, rfl, rfl⟩, ⟨rfl, rfl⟩, ?_⟩
    simp only [SVMMessageAddressTableLookup.length_toBytes]
    omega

/-- The iterator's parse of one lookup succeeds exactly on the bytes of a lookup, and returns
it. -/
theorem readLookup_eq_ok {l : SVMMessageAddressTableLookup} :
    (AddressTableLookupIterator.readLookup bytes).run o = .ok (l, o') ↔
      l.WellSized ∧ l.toBytes <+: bytes.drop o ∧ o' = o + l.toBytes.length := by
  rw [readLookup_eq]
  simp only [run_bind_eq_ok_iff, readType_eq_ok, readShortVec_eq_ok, run_pure, Except.ok.injEq,
    Prod.mk.injEq]
  constructor
  · rintro ⟨key, s₁, ⟨hkey, rfl, rfl⟩, xs, s₂, ⟨hxs, hxpre, rfl⟩, ys, s₃, ⟨hys, hypre, rfl⟩,
      rfl, rfl⟩
    refine ⟨⟨hxs, hys⟩, ?_, ?_⟩
    · rw [SVMMessageAddressTableLookup.toBytes, prefix_drop_append, prefix_drop_append,
        Pubkey.length_toBytes, toBytes_prefix_drop]
      exact ⟨⟨hkey, rfl⟩, hxpre, hypre⟩
    · simp only [SVMMessageAddressTableLookup.length_toBytes]
      omega
  · obtain ⟨key, xs, ys⟩ := l
    rintro ⟨⟨hxs, hys⟩, hpre, rfl⟩
    rw [SVMMessageAddressTableLookup.toBytes, prefix_drop_append, prefix_drop_append,
      Pubkey.length_toBytes, toBytes_prefix_drop] at hpre
    obtain ⟨⟨hkey, rfl⟩, hxpre, hypre⟩ := hpre
    refine ⟨_, o + 32, ⟨hkey, rfl, rfl⟩, xs, _, ⟨hxs, hxpre, rfl⟩, ys, _, ⟨hys, hypre, rfl⟩,
      rfl, ?_⟩
    simp only [SVMMessageAddressTableLookup.length_toBytes]
    omega

end Items

/-! ## The fixed-size sections -/

/-- The version byte of a message: none for a legacy message, `MESSAGE_VERSION_PREFIX` for a
`v0` one. -/
def versionPrefix : TransactionVersion → List UInt8
  | .legacy => []
  | .v0 => [messageVersionPrefix]

/-- The first bytes of a message header as `MessageHeaderFrame::try_new` reads them: the version,
and the number of required signatures, which a legacy message has as its first byte. -/
def versionAndRequired (bytes : List UInt8) : Parse (TransactionVersion × UInt8) := do
  let messagePrefix ← readByte bytes
  if messagePrefix &&& messageVersionPrefix ≠ 0 then
    if messagePrefix &&& ~~~messageVersionPrefix = 0 then do
      let numRequiredSignatures ← readByte bytes
      pure (TransactionVersion.v0, numRequiredSignatures)
    else throw .parseError
  else pure (TransactionVersion.legacy, messagePrefix)

theorem MessageHeaderFrame.tryNew_eq (bytes : List UInt8) :
    MessageHeaderFrame.tryNew bytes = (do
      let messageOffset := UInt16.ofNat (← get)
      let (version, numRequiredSignatures) ← versionAndRequired bytes
      let numReadonlySignedAccounts ← readByte bytes
      let numReadonlyUnsignedAccounts ← readByte bytes
      pure { offset := messageOffset, version, numRequiredSignatures, numReadonlySignedAccounts,
             numReadonlyUnsignedAccounts }) := by
  simp only [MessageHeaderFrame.tryNew, versionAndRequired, bind_assoc]
  congr 1
  funext offset
  congr 1
  funext messagePrefix
  -- the rest of the header is read after each branch of the version byte
  split_ifs <;> simp only [bind_assoc, pure_bind]

section Sections

variable {bytes : List UInt8} {o o' : Nat}

/-- The common body of the signature and static key frames reads a count between `1` and `max`
and passes over that many elements. -/
theorem countedArrayFrame_eq_ok {size : Nat} {max n : UInt8} {offset : UInt16} :
    (countedArrayFrame size max bytes).run o = .ok ((n, offset), o') ↔
      bytes[o]? = some n ∧ n ≠ 0 ∧ n ≤ max ∧ n.toNat * size ≤ bytes.length - (o + 1) ∧
        offset = UInt16.ofNat (o + 1) ∧ o' = o + 1 + n.toNat * size := by
  simp only [countedArrayFrame, run_bind_eq_ok_iff, readByte_eq_ok, failIf_eq_ok, run_get_bind,
    advanceOffsetForArray_eq_ok, run_pure, Except.ok.injEq, Prod.mk.injEq, UInt8.toNat_toUInt16,
    not_or, gt_iff_lt, UInt8.not_lt]
  constructor
  · rintro ⟨m, s₁, ⟨hm, rfl⟩, u, s₂, ⟨⟨hne, hle⟩, rfl⟩, v, s₃, ⟨hroom, rfl⟩, ⟨rfl, rfl⟩, rfl⟩
    exact ⟨hm, hne, hle, hroom, rfl, rfl⟩
  · rintro ⟨hm, hne, hle, hroom, rfl, rfl⟩
    exact ⟨n, o + 1, ⟨hm, rfl⟩, (), o + 1, ⟨⟨hne, hle⟩, rfl⟩, (), _, ⟨hroom, rfl⟩, ⟨rfl, rfl⟩,
      rfl⟩

theorem SignatureFrame.tryNew_eq_ok {f : SignatureFrame} :
    (SignatureFrame.tryNew bytes).run o = .ok (f, o') ↔
      (countedArrayFrame 64 maxSignaturesPerPacket bytes).run o =
        .ok ((f.numSignatures, f.offset), o') := by
  simp only [SignatureFrame.tryNew, run_bind_eq_ok_iff, Prod.exists, run_pure, Except.ok.injEq,
    Prod.mk.injEq]
  constructor
  · rintro ⟨n, offset, s, h, rfl, rfl⟩
    exact h
  · intro h
    exact ⟨_, _, _, h, rfl, rfl⟩

theorem StaticAccountKeysFrame.tryNew_eq_ok {f : StaticAccountKeysFrame} :
    (StaticAccountKeysFrame.tryNew bytes).run o = .ok (f, o') ↔
      (countedArrayFrame 32 maxStaticAccountsPerPacket bytes).run o =
        .ok ((f.numStaticAccounts, f.offset), o') := by
  simp only [StaticAccountKeysFrame.tryNew, run_bind_eq_ok_iff, Prod.exists, run_pure,
    Except.ok.injEq, Prod.mk.injEq]
  constructor
  · rintro ⟨n, offset, s, h, rfl, rfl⟩
    exact h
  · intro h
    exact ⟨_, _, _, h, rfl, rfl⟩

/-- `0x80` is the one first byte with the high bit set that `try_new` takes for a version. -/
theorem isVersionPrefix_iff (p : UInt8) :
    (p &&& messageVersionPrefix ≠ 0 ∧ p &&& ~~~messageVersionPrefix = 0) ↔
      p = messageVersionPrefix := by
  have hnot : ~~~messageVersionPrefix = 0x7F := by decide
  have hlow : p &&& 0x7F = 0 ↔ p.toNat % 128 = 0 := by
    rw [← UInt8.toNat_inj, Wire.toNat_and_0x7F]
    rfl
  have hp := UInt8.toNat_lt p
  rw [hnot, hlow, messageVersionPrefix, Ne, Wire.and_0x80_eq_zero, ← UInt8.toNat_inj]
  show (¬p.toNat < 128 ∧ p.toNat % 128 = 0) ↔ p.toNat = 128
  omega

theorem versionAndRequired_eq_ok {version : TransactionVersion} {r : UInt8} :
    (versionAndRequired bytes).run o = .ok ((version, r), o') ↔
      versionPrefix version ++ [r] <+: bytes.drop o ∧ (version = .legacy → r.toNat < 128) ∧
        o' = o + (versionPrefix version).length + 1 := by
  simp only [versionAndRequired, run_bind_eq_ok_iff, readByte_eq_ok]
  constructor
  · rintro ⟨p, s, ⟨hp, rfl⟩, h⟩
    by_cases hv : p &&& messageVersionPrefix ≠ 0 ∧ p &&& ~~~messageVersionPrefix = 0
    · -- a version prefix: the count of required signatures is the next byte
      rw [if_pos hv.1, if_pos hv.2, run_bind_eq_ok_iff] at h
      obtain ⟨r', s', hread, hpure⟩ := h
      obtain ⟨hr', rfl⟩ := readByte_eq_ok.mp hread
      simp only [run_pure, Except.ok.injEq, Prod.mk.injEq] at hpure
      obtain ⟨⟨rfl, rfl⟩, rfl⟩ := hpure
      obtain rfl := (isVersionPrefix_iff p).mp hv
      refine ⟨?_, (fun h => nomatch h), rfl⟩
      rw [versionPrefix, List.singleton_append, prefix_drop_cons, prefix_drop_cons]
      exact ⟨hp, hr', List.nil_prefix⟩
    · by_cases hhigh : p &&& messageVersionPrefix ≠ 0
      · -- the high bit set with other bits: no known version
        have hlow : ¬p &&& ~~~messageVersionPrefix = 0 := fun h => hv ⟨hhigh, h⟩
        rw [if_pos hhigh, if_neg hlow] at h
        exact absurd h run_throw_ne_ok
      · -- a legacy message: the first byte is the count
        rw [if_neg hhigh, run_pure] at h
        cases h
        refine ⟨?_, fun _ => ?_, rfl⟩
        · rw [versionPrefix, List.nil_append, prefix_drop_cons]
          exact ⟨hp, List.nil_prefix⟩
        · rw [messageVersionPrefix, not_not, Wire.and_0x80_eq_zero] at hhigh
          exact hhigh
  · rintro ⟨hpre, hleg, rfl⟩
    cases version with
    | legacy =>
      rw [versionPrefix, List.nil_append, prefix_drop_cons] at hpre
      have hhigh : ¬r &&& messageVersionPrefix ≠ 0 := by
        rw [messageVersionPrefix, not_not, Wire.and_0x80_eq_zero]
        exact hleg rfl
      refine ⟨r, o + 1, ⟨hpre.1, rfl⟩, ?_⟩
      rw [if_neg hhigh, run_pure]
      rfl
    | v0 =>
      rw [versionPrefix, List.singleton_append, prefix_drop_cons, prefix_drop_cons] at hpre
      obtain ⟨hp, hr, -⟩ := hpre
      obtain ⟨hhigh, hlow⟩ := (isVersionPrefix_iff messageVersionPrefix).mpr rfl
      refine ⟨messageVersionPrefix, o + 1, ⟨hp, rfl⟩, ?_⟩
      rw [if_pos hhigh, if_pos hlow, run_bind_eq_ok_iff]
      exact ⟨r, o + 1 + 1, readByte_eq_ok.mpr ⟨hr, rfl⟩, rfl⟩

/-- The message header: the version byte if there is one and three counts, the first of which
has its high bit clear in a legacy message. -/
theorem MessageHeaderFrame.tryNew_eq_ok {f : MessageHeaderFrame} :
    (MessageHeaderFrame.tryNew bytes).run o = .ok (f, o') ↔
      versionPrefix f.version ++ [f.numRequiredSignatures, f.numReadonlySignedAccounts,
          f.numReadonlyUnsignedAccounts] <+: bytes.drop o ∧
        (f.version = .legacy → f.numRequiredSignatures.toNat < 128) ∧
        f.offset = UInt16.ofNat o ∧ o' = o + (versionPrefix f.version).length + 3 := by
  rw [MessageHeaderFrame.tryNew_eq]
  simp only [run_get_bind, run_bind_eq_ok_iff, Prod.exists, versionAndRequired_eq_ok,
    readByte_eq_ok, run_pure, Except.ok.injEq, Prod.mk.injEq]
  -- the version byte and the first count, then the two other counts one byte at a time
  have hbytes : ∀ (v : TransactionVersion) (r s u : UInt8),
      versionPrefix v ++ [r, s, u] <+: bytes.drop o ↔ versionPrefix v ++ [r] <+: bytes.drop o ∧
        bytes[o + (versionPrefix v).length + 1]? = some s ∧
        bytes[o + (versionPrefix v).length + 1 + 1]? = some u := by
    intro v r s u
    rw [show versionPrefix v ++ [r, s, u] = (versionPrefix v ++ [r]) ++ s :: [u] by simp,
      prefix_drop_append, List.length_append, List.length_singleton, ← Nat.add_assoc,
      prefix_drop_cons, prefix_drop_cons]
    simp only [List.nil_prefix, and_true]
  constructor
  · rintro ⟨v, r, s₁, ⟨hvr, hleg, rfl⟩, ros, s₂, ⟨hros, rfl⟩, rou, s₃, ⟨hrou, rfl⟩, rfl, rfl⟩
    exact ⟨(hbytes v r ros rou).mpr ⟨hvr, hros, hrou⟩, hleg, rfl, by dsimp only⟩
  · obtain ⟨offset, v, r, ros, rou⟩ := f
    rintro ⟨hpre, hleg, rfl, rfl⟩
    obtain ⟨hvr, hros, hrou⟩ := (hbytes v r ros rou).mp hpre
    exact ⟨v, r, _, ⟨hvr, hleg, rfl⟩, ros, _, ⟨hros, rfl⟩, rou, _, ⟨hrou, rfl⟩, rfl,
      by dsimp only⟩

end Sections

/-! ## The loops -/

/-- The number of writable indexes over all lookups. -/
def totalWritable (lookups : List SVMMessageAddressTableLookup) : Nat :=
  (lookups.map fun l => l.writableIndexes.length).sum

/-- The number of readonly indexes over all lookups. -/
def totalReadonly (lookups : List SVMMessageAddressTableLookup) : Nat :=
  (lookups.map fun l => l.readonlyIndexes.length).sum

@[simp] theorem totalWritable_nil : totalWritable [] = 0 := rfl

@[simp] theorem totalWritable_cons (l : SVMMessageAddressTableLookup)
    (lookups : List SVMMessageAddressTableLookup) :
    totalWritable (l :: lookups) = l.writableIndexes.length + totalWritable lookups := by
  rw [totalWritable, List.map_cons, List.sum_cons, ← totalWritable]

@[simp] theorem totalReadonly_nil : totalReadonly [] = 0 := rfl

@[simp] theorem totalReadonly_cons (l : SVMMessageAddressTableLookup)
    (lookups : List SVMMessageAddressTableLookup) :
    totalReadonly (l :: lookups) = l.readonlyIndexes.length + totalReadonly lookups := by
  rw [totalReadonly, List.map_cons, List.sum_cons, ← totalReadonly]

/-- A count that compact-u16 holds widens to `u32` unchanged. -/
theorem toUInt32_ofNat_of_lt {n : Nat} (h : n < 2 ^ 14) :
    (UInt16.ofNat n).toUInt32 = UInt32.ofNat n := by
  apply UInt32.toNat_inj.mp
  rw [UInt16.toNat_toUInt32, Wire.toNat_ofNat_of_lt h, UInt32.toNat_ofNat', Nat.mod_eq_of_lt]
  omega

/-- An instruction takes at least three bytes. -/
theorem three_mul_length_le (inss : List SVMInstruction) :
    3 * inss.length ≤ (inss.flatMap SVMInstruction.toBytes).length := by
  induction inss with
  | nil => simp
  | cons i inss ih =>
    have hi := SVMInstruction.three_le_length_toBytes i
    rw [List.flatMap_cons, List.length_append, List.length_cons]
    omega

section Loops

variable {bytes : List UInt8} {o o' : Nat}

/-- The instructions loop walks over `n` instructions standing one after another, and records
their lengths in order. The induction is on the count. -/
theorem instructionFrames_eq_ok {n : Nat}
    {fs : {frames : List InstructionFrame // frames.length = n}} :
    (instructionFrames bytes n).run o = .ok (fs, o') ↔
      ∃ inss : List SVMInstruction, (∀ i ∈ inss, i.WellSized) ∧
        inss.flatMap SVMInstruction.toBytes <+: bytes.drop o ∧
        fs.1 = inss.map SVMInstruction.frame ∧
        o' = o + (inss.flatMap SVMInstruction.toBytes).length := by
  induction n generalizing o o' with
  | zero =>
    obtain ⟨frames, hframes⟩ := fs
    obtain rfl := List.eq_nil_of_length_eq_zero hframes
    simp only [instructionFrames, run_pure, Except.ok.injEq, Prod.mk.injEq]
    constructor
    · rintro ⟨-, rfl⟩
      exact ⟨[], fun _ h => absurd h List.not_mem_nil, List.nil_prefix, rfl, rfl⟩
    · rintro ⟨inss, -, -, hmap, rfl⟩
      obtain rfl := List.map_eq_nil_iff.mp hmap.symm
      simp
  | succ n ih =>
    simp only [instructionFrames, run_bind_eq_ok_iff, instructionFrame_eq_ok, ih, run_pure,
      Except.ok.injEq, Prod.mk.injEq]
    constructor
    · rintro ⟨f, s₁, ⟨i, hi, hipre, rfl, rfl⟩, fs', s₂, ⟨inss, hinss, hpre, hfs', rfl⟩, rfl, rfl⟩
      refine ⟨i :: inss, List.forall_mem_cons.mpr ⟨hi, hinss⟩, ?_, ?_, ?_⟩
      · rw [List.flatMap_cons, prefix_drop_append]
        exact ⟨hipre, hpre⟩
      · rw [List.map_cons, ← hfs']
      · rw [List.flatMap_cons, List.length_append]
        omega
    · rintro ⟨inss, hinss, hpre, hfs, rfl⟩
      cases inss with
      | nil =>
        have hlen := fs.2
        rw [hfs, List.map_nil, List.length_nil] at hlen
        omega
      | cons i inss =>
        rw [List.forall_mem_cons] at hinss
        rw [List.flatMap_cons, prefix_drop_append] at hpre
        have hlen : (inss.map SVMInstruction.frame).length = n := by
          have h := fs.2
          rw [hfs, List.map_cons, List.length_cons] at h
          omega
        refine ⟨i.frame, o + i.toBytes.length, ⟨i, hinss.1, hpre.1, rfl, rfl⟩,
          ⟨inss.map SVMInstruction.frame, hlen⟩, _, ⟨inss, hinss.2, hpre.2, rfl, rfl⟩, ?_, ?_⟩
        · exact Subtype.ext (by rw [hfs, List.map_cons])
        · rw [List.flatMap_cons, List.length_append]
          omega

/-- The lookups loop walks over `n` lookups standing one after another, and adds their index
counts to the two totals with `u32` wrapping. The induction is on the count. -/
theorem lookupTotals_eq_ok {n : Nat} {tw tr w r : UInt32} :
    (lookupTotals bytes n tw tr).run o = .ok ((w, r), o') ↔
      ∃ lookups : List SVMMessageAddressTableLookup, lookups.length = n ∧
        (∀ l ∈ lookups, l.WellSized) ∧
        lookups.flatMap SVMMessageAddressTableLookup.toBytes <+: bytes.drop o ∧
        w = tw + UInt32.ofNat (totalWritable lookups) ∧
        r = tr + UInt32.ofNat (totalReadonly lookups) ∧
        o' = o + (lookups.flatMap SVMMessageAddressTableLookup.toBytes).length := by
  induction n generalizing o tw tr with
  | zero =>
    simp only [lookupTotals, run_pure, Except.ok.injEq, Prod.mk.injEq]
    constructor
    · rintro ⟨⟨rfl, rfl⟩, rfl⟩
      refine ⟨[], rfl, fun _ h => absurd h List.not_mem_nil, List.nil_prefix, ?_, ?_, rfl⟩ <;>
        simp
    · rintro ⟨lookups, hlen, -, -, rfl, rfl, rfl⟩
      obtain rfl := List.eq_nil_of_length_eq_zero hlen
      simp
  | succ n ih =>
    simp only [lookupTotals, run_bind_eq_ok_iff, Prod.exists, lookupFrame_eq_ok, ih]
    constructor
    · rintro ⟨a, b, s₁, ⟨l, hl, hlpre, rfl, rfl, rfl⟩, lookups, hlen, hls, hpre, rfl, rfl, rfl⟩
      refine ⟨l :: lookups, by rw [List.length_cons, hlen], List.forall_mem_cons.mpr ⟨hl, hls⟩,
        ?_, ?_, ?_, ?_⟩
      · rw [List.flatMap_cons, prefix_drop_append]
        exact ⟨hlpre, hpre⟩
      · rw [toUInt32_ofNat_of_lt hl.1, totalWritable_cons, UInt32.ofNat_add, UInt32.add_assoc]
      · rw [toUInt32_ofNat_of_lt hl.2, totalReadonly_cons, UInt32.ofNat_add, UInt32.add_assoc]
      · rw [List.flatMap_cons, List.length_append]
        omega
    · rintro ⟨lookups, hlen, hls, hpre, rfl, rfl, rfl⟩
      cases lookups with
      | nil => exact absurd hlen (by simp)
      | cons l lookups =>
        rw [List.forall_mem_cons] at hls
        rw [List.flatMap_cons, prefix_drop_append] at hpre
        refine ⟨_, _, _, ⟨l, hls.1, hpre.1, rfl, rfl, rfl⟩, lookups, by simpa using hlen, hls.2,
          hpre.2, ?_, ?_, ?_⟩
        · rw [toUInt32_ofNat_of_lt hls.1.1, totalWritable_cons, UInt32.ofNat_add, UInt32.add_assoc]
        · rw [toUInt32_ofNat_of_lt hls.1.2, totalReadonly_cons, UInt32.ofNat_add, UInt32.add_assoc]
        · rw [List.flatMap_cons, List.length_append]
          omega

/-- The instructions section: a compact count and that many instructions. The room for three
bytes an instruction that the frame checks first is there whenever the instructions are. -/
theorem InstructionsFrame.tryNew_eq_ok {f : InstructionsFrame} :
    (InstructionsFrame.tryNew bytes).run o = .ok (f, o') ↔
      ∃ inss : List SVMInstruction, inss.length < 2 ^ 14 ∧ (∀ i ∈ inss, i.WellSized) ∧
        Wire.encodeCompactU16 inss.length ++ inss.flatMap SVMInstruction.toBytes <+:
          bytes.drop o ∧
        f.numInstructions = UInt16.ofNat inss.length ∧
        f.offset = UInt16.ofNat (o + Wire.compactLen inss.length) ∧
        f.frames = inss.map SVMInstruction.frame ∧
        o' = o + Wire.compactLen inss.length + (inss.flatMap SVMInstruction.toBytes).length := by
  simp only [InstructionsFrame.tryNew, run_bind_eq_ok_iff, optimizedReadCompressedU16_eq_ok,
    run_get_bind, run_lift_eq_ok, instructionFrames_eq_ok, run_pure, Except.ok.injEq,
    Prod.mk.injEq]
  constructor
  · rintro ⟨n, s₁, ⟨hn, henc, rfl⟩, u, s₂, ⟨-, rfl⟩, fs, s₃, ⟨inss, hinss, hpre, hfs, rfl⟩, rfl,
      rfl⟩
    have hlen : inss.length = n.toNat := by rw [← fs.2, hfs, List.length_map]
    dsimp only
    refine ⟨inss, hlen ▸ hn, hinss, ?_, ?_, ?_, hfs, ?_⟩
    · rw [prefix_drop_append, Wire.length_encodeCompactU16, hlen]
      exact ⟨henc, hpre⟩
    · rw [hlen, UInt16.ofNat_toNat]
    · rw [hlen]
    · rw [hlen]
  · rintro ⟨inss, hlt, hinss, hpre, hnum, hoff, hframes, rfl⟩
    rw [prefix_drop_append, Wire.length_encodeCompactU16] at hpre
    have hn := Wire.toNat_ofNat_of_lt hlt
    -- every instruction takes three bytes or more
    have hroom : 3 * inss.length ≤ bytes.length - (o + Wire.compactLen inss.length) := by
      have h₁ := three_mul_length_le inss
      have h₂ := hpre.2.length_le
      rw [List.length_drop] at h₂
      omega
    refine ⟨UInt16.ofNat inss.length, o + Wire.compactLen inss.length, ⟨?_, ?_, ?_⟩, (), _,
      ⟨checkRemaining_eq_ok.mpr ?_, rfl⟩, ⟨inss.map SVMInstruction.frame, ?_⟩, _,
      ⟨inss, hinss, hpre.2, rfl, rfl⟩, ?_, rfl⟩ <;> try rw [hn]
    · exact hlt
    · exact hpre.1
    · exact hroom
    · exact List.length_map _
    · exact InstructionsFrame.ext hnum.symm hoff.symm hframes.symm

/-- At most `MAX_ATLS_PER_PACKET` lookups fit in a packet. -/
theorem maxAtlsPerPacket_toNat : maxAtlsPerPacket.toNat = 31 := by decide

theorem totalWritable_le {lookups : List SVMMessageAddressTableLookup}
    (h : ∀ l ∈ lookups, l.WellSized) : totalWritable lookups ≤ 2 ^ 14 * lookups.length := by
  induction lookups with
  | nil => simp
  | cons l lookups ih =>
    rw [List.forall_mem_cons] at h
    have hl := h.1.1
    have hrest := ih h.2
    rw [totalWritable_cons, List.length_cons]
    omega

theorem totalReadonly_le {lookups : List SVMMessageAddressTableLookup}
    (h : ∀ l ∈ lookups, l.WellSized) : totalReadonly lookups ≤ 2 ^ 14 * lookups.length := by
  induction lookups with
  | nil => simp
  | cons l lookups ih =>
    rw [List.forall_mem_cons] at h
    have hl := h.1.2
    have hrest := ih h.2
    rw [totalReadonly_cons, List.length_cons]
    omega

/-- A total below `2 ^ 32` added to `0` converts to `u16` exactly when it is below `2 ^ 16`. -/
theorem tryIntoU16_total {n : Nat} (hn : n < 2 ^ 32) {a : UInt16} :
    RustInt.tryIntoU16 (0 + UInt32.ofNat n) = some a ↔ n < 2 ^ 16 ∧ a = UInt16.ofNat n := by
  have hval : (UInt32.ofNat n).toNat = n := by
    rw [UInt32.toNat_ofNat', Nat.mod_eq_of_lt hn]
  have hconv : (UInt32.ofNat n).toUInt16 = UInt16.ofNat n := by
    apply UInt16.toNat_inj.mp
    rw [UInt32.toNat_toUInt16, hval, UInt16.toNat_ofNat']
  rw [UInt32.zero_add, RustInt.tryIntoU16_eq_some, hval, hconv]

/-- The lookups section of a `v0` message: a count byte up to `MAX_ATLS_PER_PACKET`, room for
that many lookups of the least size, the lookups, and totals that fit a `u16`. -/
theorem AddressTableLookupFrame.tryNew_eq_ok {f : AddressTableLookupFrame} :
    (AddressTableLookupFrame.tryNew bytes).run o = .ok (f, o') ↔
      ∃ lookups : List SVMMessageAddressTableLookup,
        lookups.length ≤ maxAtlsPerPacket.toNat ∧ (∀ l ∈ lookups, l.WellSized) ∧
        UInt8.ofNat lookups.length :: lookups.flatMap SVMMessageAddressTableLookup.toBytes <+:
          bytes.drop o ∧
        minSizedAtl * lookups.length ≤ bytes.length - (o + 1) ∧
        totalWritable lookups < 2 ^ 16 ∧ totalReadonly lookups < 2 ^ 16 ∧
        f = ⟨UInt8.ofNat lookups.length, UInt16.ofNat (o + 1),
          UInt16.ofNat (totalWritable lookups), UInt16.ofNat (totalReadonly lookups)⟩ ∧
        o' = o + 1 + (lookups.flatMap SVMMessageAddressTableLookup.toBytes).length := by
  simp only [AddressTableLookupFrame.tryNew, run_bind_eq_ok_iff, readByte_eq_ok, failIf_eq_ok,
    run_get_bind, run_lift_eq_ok, Prod.exists, lookupTotals_eq_ok, gt_iff_lt, UInt8.not_lt]
  constructor
  · rintro ⟨n, s₁, ⟨hn, rfl⟩, u, s₂, ⟨hmax, rfl⟩, v, s₃, ⟨hroom, rfl⟩, w, r, s₄,
      ⟨lookups, hlen, hls, hpre, rfl, rfl, rfl⟩, hrest⟩
    have hmax' : lookups.length ≤ 31 := by
      rw [hlen, ← maxAtlsPerPacket_toNat]
      exact UInt8.le_iff_toNat_le.mp hmax
    have hw32 : totalWritable lookups < 2 ^ 32 := by
      have := totalWritable_le hls
      omega
    have hr32 : totalReadonly lookups < 2 ^ 32 := by
      have := totalReadonly_le hls
      omega
    -- the two conversions to `u16` that end the frame
    cases hw : RustInt.tryIntoU16 (0 + UInt32.ofNat (totalWritable lookups)) with
    | none =>
      rw [hw] at hrest
      exact absurd hrest run_throw_ne_ok
    | some a =>
      cases hr : RustInt.tryIntoU16 (0 + UInt32.ofNat (totalReadonly lookups)) with
      | none =>
        rw [hw, hr] at hrest
        exact absurd hrest run_throw_ne_ok
      | some b =>
        rw [hw, hr, run_pure] at hrest
        obtain ⟨hwlt, rfl⟩ := (tryIntoU16_total hw32).mp hw
        obtain ⟨hrlt, rfl⟩ := (tryIntoU16_total hr32).mp hr
        obtain ⟨rfl, rfl⟩ := Prod.mk.inj (Except.ok.inj hrest)
        have hn' : n = UInt8.ofNat lookups.length := by rw [hlen, UInt8.ofNat_toNat]
        subst hn'
        have hroom' := checkRemaining_eq_ok.mp hroom
        rw [← hlen] at hroom'
        refine ⟨lookups, by rw [maxAtlsPerPacket_toNat]; exact hmax', hls,
          prefix_drop_cons.mpr ⟨hn, hpre⟩, hroom', hwlt, hrlt, rfl, rfl⟩
  · rintro ⟨lookups, hmax, hls, hpre, hroom, hw, hr, rfl, rfl⟩
    rw [prefix_drop_cons] at hpre
    rw [maxAtlsPerPacket_toNat] at hmax
    have hn : (UInt8.ofNat lookups.length).toNat = lookups.length := by
      rw [UInt8.toNat_ofNat', Nat.mod_eq_of_lt (by omega)]
    refine ⟨_, _, ⟨hpre.1, rfl⟩, (), _, ⟨?_, rfl⟩, (), _, ⟨checkRemaining_eq_ok.mpr ?_, rfl⟩,
      _, _, _, ⟨lookups, hn.symm, hls, hpre.2, rfl, rfl, rfl⟩, ?_⟩
    · rw [UInt8.le_iff_toNat_le, hn, maxAtlsPerPacket_toNat]
      exact hmax
    · rw [hn]
      exact hroom
    · rw [(tryIntoU16_total (by omega)).mpr ⟨hw, rfl⟩, (tryIntoU16_total (by omega)).mpr ⟨hr, rfl⟩]
      rfl

end Loops

end TRv1.TransactionView
