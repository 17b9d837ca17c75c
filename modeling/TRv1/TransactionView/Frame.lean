import TRv1.Sdk.Keys
import TRv1.Lib.RustInt
import TRv1.Lib.Iterator
import TRv1.TransactionView.Bytes

/-!
# The framing pass of a serialized transaction

`TransactionFrame::try_new` of the `transaction-view` crate and the frames it is made of
(`signature_frame.rs`, `message_header_frame.rs`, `static_account_keys_frame.rs`,
`instructions_frame.rs`, `address_table_lookup_frame.rs`). One pass over the bytes checks the
layout of a transaction and records, for each section, its count and the position it starts at;
for the instructions it also records each one's lengths. Nothing is copied: the iterators over
instructions and address table lookups read the bytes again from the recorded positions.

Every position is recorded as a `u16` (`*offset as u16`, here `UInt16.ofNat`), the source
reasoning that "our packet length is less than u16::MAX". The frame of a transaction keeps the
sections' positions, not the bytes.

`instructions_iter` reads each instruction with the unchecked readers at the lengths the frame
recorded; `address_table_lookup_iter` parses each lookup again with the checked readers, and a
reader that fails ends the iteration (`.ok()?`). An iterator's elements are the list `toList`
collects (`Iterator.collect`), with the iterator's own `len` as the bound on its steps: `for`
and `collect` stop at the first `None`.

`PACKET_DATA_SIZE` (1232, from `solana-packet`) and `MESSAGE_VERSION_PREFIX` (`0x80`, from
`solana-message`) are the values the source's comments give; the maximal counts are computed
from them as in the source.
-/

set_option autoImplicit false

namespace TRv1.TransactionView

/-- `PACKET_DATA_SIZE`. -/
def packetDataSize : Nat := 1232

/-- `MESSAGE_VERSION_PREFIX`: the high bit of the first byte of a versioned message. -/
def messageVersionPrefix : UInt8 := 0x80

/-- `MAX_SIGNATURES_PER_PACKET`: a signature and the key it belongs to take 96 bytes. -/
def maxSignaturesPerPacket : UInt8 := UInt8.ofNat (packetDataSize / (64 + 32))

/-- `MAX_STATIC_ACCOUNTS_PER_PACKET`. -/
def maxStaticAccountsPerPacket : UInt8 := UInt8.ofNat (packetDataSize / 32)

/-- `MIN_SIZED_ATL`: a key, the two counts and one index. -/
def minSizedAtl : Nat := 32 + 1 + 1 + 1

/-- `MIN_SIZED_PACKET_WITH_ATLS`. -/
def minSizedPacketWithAtls : Nat := 1 + 64 + 1 + 3 + 1 + 32 + 32 + 1 + 1

/-- `MAX_ATLS_PER_PACKET`. -/
def maxAtlsPerPacket : UInt8 :=
  UInt8.ofNat ((packetDataSize - minSizedPacketWithAtls) / minSizedAtl)

/-- `TransactionVersion`. -/
inductive TransactionVersion where
  | legacy
  | v0
  deriving DecidableEq, Repr

/-! ## The frames -/

/-- The body shared by `SignatureFrame::try_new` and `StaticAccountKeysFrame::try_new`: a count
byte between `1` and `max`, and that many elements of `size` bytes passed over; the count and
the position of the first element. -/
def countedArrayFrame (size : Nat) (max : UInt8) (bytes : List UInt8) :
    Parse (UInt8 × UInt16) := do
  let numElements ← readByte bytes
  failIf (numElements = 0 ∨ numElements > max) .parseError
  let offset := UInt16.ofNat (← get)
  advanceOffsetForArray size bytes numElements.toUInt16
  pure (numElements, offset)

/-- `SignatureFrame`. -/
structure SignatureFrame where
  numSignatures : UInt8
  offset : UInt16
  deriving DecidableEq, Repr

/-- `SignatureFrame::try_new`: signatures of 64 bytes. -/
def SignatureFrame.tryNew (bytes : List UInt8) : Parse SignatureFrame := do
  let (numSignatures, offset) ← countedArrayFrame 64 maxSignaturesPerPacket bytes
  pure { numSignatures, offset }

/-- `MessageHeaderFrame`. -/
structure MessageHeaderFrame where
  offset : UInt16
  version : TransactionVersion
  numRequiredSignatures : UInt8
  numReadonlySignedAccounts : UInt8
  numReadonlyUnsignedAccounts : UInt8
  deriving DecidableEq, Repr

/-- `MessageHeaderFrame::try_new`: a first byte with the high bit set is a version prefix, and
only version `0` is known; without it the byte is the number of required signatures. -/
def MessageHeaderFrame.tryNew (bytes : List UInt8) : Parse MessageHeaderFrame := do
  let messageOffset := UInt16.ofNat (← get)
  let messagePrefix ← readByte bytes
  let (version, numRequiredSignatures) ←
    if messagePrefix &&& messageVersionPrefix ≠ 0 then
      if messagePrefix &&& ~~~messageVersionPrefix = 0 then do
        let numRequiredSignatures ← readByte bytes
        pure (TransactionVersion.v0, numRequiredSignatures)
      else throw .parseError
    else pure (TransactionVersion.legacy, messagePrefix)
  let numReadonlySignedAccounts ← readByte bytes
  let numReadonlyUnsignedAccounts ← readByte bytes
  pure { offset := messageOffset, version, numRequiredSignatures, numReadonlySignedAccounts,
         numReadonlyUnsignedAccounts }

/-- `StaticAccountKeysFrame`. -/
structure StaticAccountKeysFrame where
  numStaticAccounts : UInt8
  offset : UInt16
  deriving DecidableEq, Repr

/-- `StaticAccountKeysFrame::try_new`: keys of 32 bytes. -/
def StaticAccountKeysFrame.tryNew (bytes : List UInt8) : Parse StaticAccountKeysFrame := do
  let (numStaticAccounts, offset) ← countedArrayFrame 32 maxStaticAccountsPerPacket bytes
  pure { numStaticAccounts, offset }

/-- `InstructionFrame`: the lengths of one instruction, and how many bytes each length took. -/
structure InstructionFrame where
  numAccounts : UInt16
  dataLen : UInt16
  numAccountsLen : UInt8
  dataLenLen : UInt8
  deriving DecidableEq, Repr

/-- The body of the loop of `InstructionsFrame::try_new`: one instruction walked over. -/
def instructionFrame (bytes : List UInt8) : Parse InstructionFrame := do
  let _programIdIndex ← readByte bytes
  let numAccountsOffset ← get
  let numAccounts ← optimizedReadCompressedU16 bytes
  let numAccountsLen := ((← get) - numAccountsOffset).toUInt8
  advanceOffsetForArray 1 bytes numAccounts
  let dataLenOffset ← get
  let dataLen ← optimizedReadCompressedU16 bytes
  let dataLenLen := ((← get) - dataLenOffset).toUInt8
  advanceOffsetForArray 1 bytes dataLen
  pure { numAccounts, dataLen, numAccountsLen, dataLenLen }

/-- The loop of `InstructionsFrame::try_new`: `n` instructions walked over, their frames in
order, with their number. -/
def instructionFrames (bytes : List UInt8) :
    (n : Nat) → Parse {frames : List InstructionFrame // frames.length = n}
  | 0 => pure ⟨[], rfl⟩
  | n + 1 => do
    let frame ← instructionFrame bytes
    let frames ← instructionFrames bytes n
    pure ⟨frame :: frames.1, by rw [List.length_cons, frames.2]⟩

/-- `InstructionsFrame`: one frame per instruction. -/
@[ext]
structure InstructionsFrame where
  numInstructions : UInt16
  offset : UInt16
  frames : List InstructionFrame
  length_frames : frames.length = numInstructions.toNat

/-- `InstructionsFrame::try_new`: each instruction takes at least three bytes, which is checked
of the count before the instructions are walked. -/
def InstructionsFrame.tryNew (bytes : List UInt8) : Parse InstructionsFrame := do
  let numInstructions ← optimizedReadCompressedU16 bytes
  StateT.lift (checkRemaining bytes (← get) (3 * numInstructions.toNat))
  let instructionsOffset := UInt16.ofNat (← get)
  let frames ← instructionFrames bytes numInstructions.toNat
  pure ⟨numInstructions, instructionsOffset, frames.1, frames.2⟩

/-- `AddressTableLookupFrame`. -/
structure AddressTableLookupFrame where
  numAddressTableLookups : UInt8
  offset : UInt16
  totalWritableLookupAccounts : UInt16
  totalReadonlyLookupAccounts : UInt16
  deriving DecidableEq, Repr

/-- The body of the loop of `AddressTableLookupFrame::try_new`: one lookup walked over, with its
numbers of writable and of readonly indexes. -/
def lookupFrame (bytes : List UInt8) : Parse (UInt16 × UInt16) := do
  advanceOffsetForType 32 bytes
  let numWriteAccounts ← optimizedReadCompressedU16 bytes
  advanceOffsetForArray 1 bytes numWriteAccounts
  let numReadAccounts ← optimizedReadCompressedU16 bytes
  advanceOffsetForArray 1 bytes numReadAccounts
  pure (numWriteAccounts, numReadAccounts)

/-- The loop of `AddressTableLookupFrame::try_new`: `n` lookups walked over, their index counts
added to the two `u32` totals with `wrapping_add`. -/
def lookupTotals (bytes : List UInt8) :
    Nat → UInt32 → UInt32 → Parse (UInt32 × UInt32)
  | 0, totalWritable, totalReadonly => pure (totalWritable, totalReadonly)
  | n + 1, totalWritable, totalReadonly => do
    let (numWriteAccounts, numReadAccounts) ← lookupFrame bytes
    lookupTotals bytes n (totalWritable + numWriteAccounts.toUInt32)
      (totalReadonly + numReadAccounts.toUInt32)

/-- `AddressTableLookupFrame::try_new`: a count byte up to the maximum, room for that many
lookups of the least size, the lookups, and totals that fit a `u16`. -/
def AddressTableLookupFrame.tryNew (bytes : List UInt8) : Parse AddressTableLookupFrame := do
  let numAddressTableLookups ← readByte bytes
  failIf (numAddressTableLookups > maxAtlsPerPacket) .parseError
  StateT.lift (checkRemaining bytes (← get) (minSizedAtl * numAddressTableLookups.toNat))
  let addressTableLookupsOffset := UInt16.ofNat (← get)
  let (totalWritable, totalReadonly) ← lookupTotals bytes numAddressTableLookups.toNat 0 0
  let some totalWritableLookupAccounts := RustInt.tryIntoU16 totalWritable
    | throw .sanitizeError
  let some totalReadonlyLookupAccounts := RustInt.tryIntoU16 totalReadonly
    | throw .sanitizeError
  pure { numAddressTableLookups, offset := addressTableLookupsOffset,
         totalWritableLookupAccounts, totalReadonlyLookupAccounts }

/-- The frame of a legacy transaction, which has no lookups. -/
def AddressTableLookupFrame.legacy : AddressTableLookupFrame := ⟨0, 0, 0, 0⟩

/-! ## The transaction frame -/

/-- `TransactionFrame`. -/
@[ext]
structure TransactionFrame where
  signature : SignatureFrame
  messageHeader : MessageHeaderFrame
  staticAccountKeys : StaticAccountKeysFrame
  recentBlockhashOffset : UInt16
  instructions : InstructionsFrame
  addressTableLookup : AddressTableLookupFrame

/-- The pass of `TransactionFrame::try_new` from position `0`, ending with the check that it
parsed every byte. -/
def TransactionFrame.parse (bytes : List UInt8) : Parse TransactionFrame := do
  let signature ← SignatureFrame.tryNew bytes
  let messageHeader ← MessageHeaderFrame.tryNew bytes
  let staticAccountKeys ← StaticAccountKeysFrame.tryNew bytes
  let recentBlockhashOffset := UInt16.ofNat (← get)
  advanceOffsetForType 32 bytes
  let instructions ← InstructionsFrame.tryNew bytes
  let addressTableLookup ←
    match messageHeader.version with
    | .legacy => pure AddressTableLookupFrame.legacy
    | .v0 => AddressTableLookupFrame.tryNew bytes
  failIf ((← get) ≠ bytes.length) .parseError
  pure { signature, messageHeader, staticAccountKeys, recentBlockhashOffset, instructions,
         addressTableLookup }

/-- `TransactionFrame::try_new`. -/
def TransactionFrame.tryNew (bytes : List UInt8) : Except TransactionViewError TransactionFrame :=
  (TransactionFrame.parse bytes).run' 0

/-! ## The iterators -/

/-- `SVMInstruction`: the program's index among the account keys, the instruction's account
indexes and its data. -/
structure SVMInstruction where
  programIdIndex : UInt8
  accounts : List UInt8
  data : List UInt8
  deriving DecidableEq, Repr

/-- `SVMMessageAddressTableLookup`. -/
structure SVMMessageAddressTableLookup where
  accountKey : Pubkey
  writableIndexes : List UInt8
  readonlyIndexes : List UInt8
  deriving DecidableEq, Repr

/-- `InstructionsIterator`, with the frames it was built from. -/
structure InstructionsIterator where
  offset : Nat
  numInstructions : UInt16
  index : UInt16
  frames : List InstructionFrame
  length_frames : frames.length = numInstructions.toNat

namespace InstructionsIterator

/-- The instruction the frame `f` describes at `offset`, read with the unchecked readers, and
the position after it. -/
def readInstruction (bytes : List UInt8) (f : InstructionFrame) : StateM Nat SVMInstruction := do
  let programIdIndex ← uncheckedReadByte bytes
  modify (· + f.numAccountsLen.toNat)
  let accounts ← uncheckedReadSliceData bytes f.numAccounts
  modify (· + f.dataLenLen.toNat)
  let data ← uncheckedReadSliceData bytes f.dataLen
  pure { programIdIndex, accounts, data }

/-- `InstructionsIterator::next`. -/
def next (bytes : List UInt8) (it : InstructionsIterator) :
    Option (SVMInstruction × InstructionsIterator) :=
  if h : it.index < it.numInstructions then
    have : it.index.toNat < it.frames.length := by
      rw [it.length_frames]
      exact UInt16.lt_iff_toNat_lt.mp h
    let (instruction, offset) := (readInstruction bytes it.frames[it.index.toNat]).run it.offset
    some (instruction, { it with offset, index := it.index + 1 })
  else none

/-- `ExactSizeIterator::len`. -/
def len (it : InstructionsIterator) : Nat := (it.numInstructions - it.index).toNat

/-- Everything the iterator yields. -/
def toList (bytes : List UInt8) (it : InstructionsIterator) : List SVMInstruction :=
  Iterator.collect (next bytes) it.len it

end InstructionsIterator

/-- `AddressTableLookupIterator`. -/
structure AddressTableLookupIterator where
  offset : Nat
  numAddressTableLookups : UInt8
  index : UInt8

namespace AddressTableLookupIterator

/-- The body of `AddressTableLookupIterator::next`: one lookup parsed with the checked readers. -/
def readLookup (bytes : List UInt8) : Parse SVMMessageAddressTableLookup := do
  let accountKey ← readType 32 Pubkey.ofBytes bytes
  let numWriteAccounts ← optimizedReadCompressedU16 bytes
  let writableIndexes ← readSliceData bytes numWriteAccounts
  let numReadAccounts ← optimizedReadCompressedU16 bytes
  let readonlyIndexes ← readSliceData bytes numReadAccounts
  pure { accountKey, writableIndexes, readonlyIndexes }

/-- `AddressTableLookupIterator::next`: a lookup that does not parse ends the iteration. -/
def next (bytes : List UInt8) (it : AddressTableLookupIterator) :
    Option (SVMMessageAddressTableLookup × AddressTableLookupIterator) :=
  if it.index < it.numAddressTableLookups then
    match (readLookup bytes).run it.offset with
    | .ok (lookup, offset) => some (lookup, { it with offset, index := it.index + 1 })
    | .error _ => none
  else none

/-- `ExactSizeIterator::len`. -/
def len (it : AddressTableLookupIterator) : Nat := (it.numAddressTableLookups - it.index).toNat

/-- Everything the iterator yields. -/
def toList (bytes : List UInt8) (it : AddressTableLookupIterator) :
    List SVMMessageAddressTableLookup :=
  Iterator.collect (next bytes) it.len it

end AddressTableLookupIterator

namespace TransactionFrame

/-- `instructions_iter`: from the recorded position, which is widened back from `u16`. -/
def instructionsIter (frame : TransactionFrame) : InstructionsIterator :=
  { offset := frame.instructions.offset.toNat,
    numInstructions := frame.instructions.numInstructions,
    index := 0,
    frames := frame.instructions.frames,
    length_frames := frame.instructions.length_frames }

/-- `address_table_lookup_iter`: from the recorded position, which is widened back from `u16`. -/
def addressTableLookupIter (frame : TransactionFrame) : AddressTableLookupIterator :=
  { offset := frame.addressTableLookup.offset.toNat,
    numAddressTableLookups := frame.addressTableLookup.numAddressTableLookups,
    index := 0 }

end TransactionFrame

end TRv1.TransactionView
