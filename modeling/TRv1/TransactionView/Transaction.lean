import TRv1.TransactionView.Walk

/-!
# Serialized transactions and what `try_new` records of them

`TransactionFrame::try_new` takes exactly the bytes of well-formed transactions. A
`Transaction` is a message as the bytes lay it out: its signatures, the header, the static
account keys, the recent blockhash, the instructions and, in a `v0` message, the address table
lookups. `Transaction.toBytes` writes its sections one after another, and `WellFormed` is what the
pass checks beyond the layout: the counts within their bounds, every count in compact-u16, room
for the lookups and totals that fit a `u16`.

## What this module delivers

- The positions of the sections in the bytes (`messageOffset`, ..., `lookupsStart`) and
  `Records tx frame`, the frame the pass records of a transaction: each section's count and
  position, as `u16`, and the lengths of each instruction.

- `tryNew_eq_ok_iff_wellFormed`: `try_new` accepts a buffer exactly when it is the bytes of a well-formed
  transaction, and then returns the frame that records it. The two directions are
  `parse_eq_ok` (the sections are read off the buffer, section by section, with the lemmas of
  `Walk`) and `parse_toBytes` (the bytes of a well-formed transaction pass every step).
-/

set_option autoImplicit false

namespace TRv1.TransactionView

open StateExcept ListAt

/-- A transaction as its serialized message lays it out. -/
structure Transaction where
  signatures : List Signature
  version : TransactionVersion
  numRequiredSignatures : UInt8
  numReadonlySignedAccounts : UInt8
  numReadonlyUnsignedAccounts : UInt8
  staticAccountKeys : List Pubkey
  recentBlockhash : Hash
  instructions : List SVMInstruction
  addressTableLookups : List SVMMessageAddressTableLookup

namespace Transaction

/-! ## Layout -/

/-- The lookups section: nothing in a legacy message, a count byte and the lookups in a `v0`
one. -/
def lookupsSection : TransactionVersion → List SVMMessageAddressTableLookup → List UInt8
  | .legacy, _ => []
  | .v0, lookups =>
    UInt8.ofNat lookups.length :: lookups.flatMap SVMMessageAddressTableLookup.toBytes

/-- A count byte and the signatures. -/
def signaturesSection (tx : Transaction) : List UInt8 :=
  UInt8.ofNat tx.signatures.length :: tx.signatures.flatMap Signature.toBytes

/-- The version byte, if any, and the three counts of the header. -/
def headerSection (tx : Transaction) : List UInt8 :=
  versionPrefix tx.version ++
    [tx.numRequiredSignatures, tx.numReadonlySignedAccounts, tx.numReadonlyUnsignedAccounts]

/-- A count byte and the static account keys. -/
def staticAccountKeysSection (tx : Transaction) : List UInt8 :=
  UInt8.ofNat tx.staticAccountKeys.length :: tx.staticAccountKeys.flatMap Pubkey.toBytes

/-- A compact-u16 count and the instructions. -/
def instructionsSection (tx : Transaction) : List UInt8 :=
  Wire.encodeCompactU16 tx.instructions.length ++ tx.instructions.flatMap SVMInstruction.toBytes

/-- The bytes of the transaction: its sections one after another. -/
def toBytes (tx : Transaction) : List UInt8 :=
  tx.signaturesSection ++ (tx.headerSection ++ (tx.staticAccountKeysSection ++
    (tx.recentBlockhash.toBytes ++ (tx.instructionsSection ++
      lookupsSection tx.version tx.addressTableLookups))))

/-- What the pass requires of the lookups of a message of `version`: none in a legacy message;
at most `MAX_ATLS_PER_PACKET` of them, each with its counts in compact-u16, and totals that fit a
`u16`. -/
structure LookupsWellFormed (version : TransactionVersion)
    (lookups : List SVMMessageAddressTableLookup) : Prop where
  legacy : version = .legacy → lookups = []
  length_le : lookups.length ≤ maxAtlsPerPacket.toNat
  wellSized : ∀ l ∈ lookups, l.WellSized
  totalWritable_lt : totalWritable lookups < 2 ^ 16
  totalReadonly_lt : totalReadonly lookups < 2 ^ 16

/-- What `try_new` requires of a transaction beyond its layout. The room it checks for the
lookups is room in the rest of the buffer, which the lookups end. -/
structure WellFormed (tx : Transaction) : Prop where
  signatures_pos : 0 < tx.signatures.length
  signatures_le : tx.signatures.length ≤ maxSignaturesPerPacket.toNat
  legacy_required : tx.version = .legacy → tx.numRequiredSignatures.toNat < 128
  staticAccountKeys_pos : 0 < tx.staticAccountKeys.length
  staticAccountKeys_le : tx.staticAccountKeys.length ≤ maxStaticAccountsPerPacket.toNat
  instructions_lt : tx.instructions.length < 2 ^ 14
  instructions_wellSized : ∀ i ∈ tx.instructions, i.WellSized
  lookups : LookupsWellFormed tx.version tx.addressTableLookups
  lookups_room : minSizedAtl * tx.addressTableLookups.length ≤
    (tx.addressTableLookups.flatMap SVMMessageAddressTableLookup.toBytes).length

/-! ## Positions -/

/-- Where the message header starts. -/
def messageOffset (tx : Transaction) : Nat := tx.signaturesSection.length

/-- Where the count of static account keys is. -/
def staticAccountKeysStart (tx : Transaction) : Nat := tx.messageOffset + tx.headerSection.length

/-- Where the recent blockhash starts. -/
def recentBlockhashOffset (tx : Transaction) : Nat :=
  tx.staticAccountKeysStart + tx.staticAccountKeysSection.length

/-- Where the count of instructions starts. -/
def instructionsStart (tx : Transaction) : Nat := tx.recentBlockhashOffset + 32

/-- Where the first instruction starts. -/
def instructionsOffset (tx : Transaction) : Nat :=
  tx.instructionsStart + Wire.compactLen tx.instructions.length

/-- Where the lookups section starts: right after the last instruction. -/
def lookupsStart (tx : Transaction) : Nat := tx.instructionsStart + tx.instructionsSection.length

/-- Where the first lookup starts, after the count byte. -/
def addressTableLookupsOffset (tx : Transaction) : Nat := tx.lookupsStart + 1

theorem messageOffset_eq (tx : Transaction) :
    tx.messageOffset = 1 + 64 * tx.signatures.length := by
  rw [messageOffset, signaturesSection, List.length_cons,
    length_flatMap_const Signature.length_toBytes]
  omega

theorem staticAccountKeysStart_eq (tx : Transaction) :
    tx.staticAccountKeysStart = tx.messageOffset + (versionPrefix tx.version).length + 3 := by
  rw [staticAccountKeysStart, headerSection, List.length_append]
  rfl

theorem recentBlockhashOffset_eq (tx : Transaction) :
    tx.recentBlockhashOffset =
      tx.staticAccountKeysStart + 1 + 32 * tx.staticAccountKeys.length := by
  rw [recentBlockhashOffset, staticAccountKeysSection, List.length_cons,
    length_flatMap_const Pubkey.length_toBytes]
  omega

theorem lookupsStart_eq (tx : Transaction) :
    tx.lookupsStart =
      tx.instructionsOffset + (tx.instructions.flatMap SVMInstruction.toBytes).length := by
  rw [lookupsStart, instructionsOffset, instructionsSection, List.length_append,
    Wire.length_encodeCompactU16]
  omega

theorem length_toBytes (tx : Transaction) :
    tx.toBytes.length =
      tx.lookupsStart + (lookupsSection tx.version tx.addressTableLookups).length := by
  simp only [toBytes, List.length_append, lookupsStart, instructionsStart, recentBlockhashOffset,
    staticAccountKeysStart, messageOffset, Hash.length_toBytes]
  omega

/-- The bytes of a transaction stand in a buffer exactly when each section stands at its
position. -/
theorem toBytes_prefix_iff {bytes : List UInt8} (tx : Transaction) :
    tx.toBytes <+: bytes ↔
      tx.signaturesSection <+: bytes ∧ tx.headerSection <+: bytes.drop tx.messageOffset ∧
        tx.staticAccountKeysSection <+: bytes.drop tx.staticAccountKeysStart ∧
        tx.recentBlockhash.toBytes <+: bytes.drop tx.recentBlockhashOffset ∧
        tx.instructionsSection <+: bytes.drop tx.instructionsStart ∧
        lookupsSection tx.version tx.addressTableLookups <+: bytes.drop tx.lookupsStart := by
  conv_lhs => rw [← List.drop_zero (l := bytes)]
  rw [toBytes, prefix_drop_append, prefix_drop_append, prefix_drop_append, prefix_drop_append,
    prefix_drop_append, List.drop_zero, Nat.zero_add, Hash.length_toBytes]
  rfl

/-! ## The frame of a transaction -/

/-- The lookups frame of a message of `version` whose lookups section starts at `start`. -/
def lookupFrameAt : TransactionVersion → List SVMMessageAddressTableLookup → Nat →
    AddressTableLookupFrame
  | .legacy, _, _ => AddressTableLookupFrame.legacy
  | .v0, lookups, start =>
    ⟨UInt8.ofNat lookups.length, UInt16.ofNat (start + 1), UInt16.ofNat (totalWritable lookups),
      UInt16.ofNat (totalReadonly lookups)⟩

/-- The frame `try_new` records of a transaction: each section's count and position as `u16`,
and the lengths of each instruction. -/
structure Records (tx : Transaction) (frame : TransactionFrame) : Prop where
  signature : frame.signature = ⟨UInt8.ofNat tx.signatures.length, 1⟩
  messageHeader : frame.messageHeader = ⟨UInt16.ofNat tx.messageOffset, tx.version,
    tx.numRequiredSignatures, tx.numReadonlySignedAccounts, tx.numReadonlyUnsignedAccounts⟩
  staticAccountKeys : frame.staticAccountKeys =
    ⟨UInt8.ofNat tx.staticAccountKeys.length, UInt16.ofNat (tx.staticAccountKeysStart + 1)⟩
  recentBlockhashOffset : frame.recentBlockhashOffset = UInt16.ofNat tx.recentBlockhashOffset
  numInstructions : frame.instructions.numInstructions = UInt16.ofNat tx.instructions.length
  instructionsOffset : frame.instructions.offset = UInt16.ofNat tx.instructionsOffset
  instructionFrames : frame.instructions.frames = tx.instructions.map SVMInstruction.frame
  addressTableLookup :
    frame.addressTableLookup = lookupFrameAt tx.version tx.addressTableLookups tx.lookupsStart

/-- A transaction has one frame. -/
theorem Records.frame_eq {tx : Transaction} {f₁ f₂ : TransactionFrame} (h₁ : tx.Records f₁)
    (h₂ : tx.Records f₂) : f₁ = f₂ :=
  TransactionFrame.ext (h₁.signature.trans h₂.signature.symm)
    (h₁.messageHeader.trans h₂.messageHeader.symm)
    (h₁.staticAccountKeys.trans h₂.staticAccountKeys.symm)
    (h₁.recentBlockhashOffset.trans h₂.recentBlockhashOffset.symm)
    (InstructionsFrame.ext (h₁.numInstructions.trans h₂.numInstructions.symm)
      (h₁.instructionsOffset.trans h₂.instructionsOffset.symm)
      (h₁.instructionFrames.trans h₂.instructionFrames.symm))
    (h₁.addressTableLookup.trans h₂.addressTableLookup.symm)

/-- The frame of a transaction whose instructions compact-u16 counts. -/
def frame (tx : Transaction) (h : tx.instructions.length < 2 ^ 14) : TransactionFrame where
  signature := ⟨UInt8.ofNat tx.signatures.length, 1⟩
  messageHeader := ⟨UInt16.ofNat tx.messageOffset, tx.version, tx.numRequiredSignatures,
    tx.numReadonlySignedAccounts, tx.numReadonlyUnsignedAccounts⟩
  staticAccountKeys :=
    ⟨UInt8.ofNat tx.staticAccountKeys.length, UInt16.ofNat (tx.staticAccountKeysStart + 1)⟩
  recentBlockhashOffset := UInt16.ofNat tx.recentBlockhashOffset
  instructions := ⟨UInt16.ofNat tx.instructions.length, UInt16.ofNat tx.instructionsOffset,
    tx.instructions.map SVMInstruction.frame, by rw [List.length_map, Wire.toNat_ofNat_of_lt h]⟩
  addressTableLookup := lookupFrameAt tx.version tx.addressTableLookups tx.lookupsStart

theorem records_frame (tx : Transaction) (h : tx.instructions.length < 2 ^ 14) :
    tx.Records (tx.frame h) :=
  ⟨rfl, rfl, rfl, rfl, rfl, rfl, rfl, rfl⟩

/-! ## The lookups step -/

/-- The step of the pass after the instructions: the legacy frame for a legacy message, the
lookups section for a `v0` one. -/
def lookupsStep (bytes : List UInt8) : TransactionVersion → Parse AddressTableLookupFrame
  | .legacy => pure AddressTableLookupFrame.legacy
  | .v0 => AddressTableLookupFrame.tryNew bytes

theorem lookupsWellFormed_legacy : LookupsWellFormed .legacy [] where
  legacy _ := rfl
  length_le := Nat.zero_le _
  wellSized _ h := absurd h List.not_mem_nil
  totalWritable_lt := by decide
  totalReadonly_lt := by decide

theorem lookupsStep_eq_ok {bytes : List UInt8} {o o' : Nat} {version : TransactionVersion}
    {atl : AddressTableLookupFrame} :
    (lookupsStep bytes version).run o = .ok (atl, o') ↔
      ∃ lookups : List SVMMessageAddressTableLookup, LookupsWellFormed version lookups ∧
        lookupsSection version lookups <+: bytes.drop o ∧
        minSizedAtl * lookups.length ≤ bytes.length - (o + 1) ∧
        atl = lookupFrameAt version lookups o ∧
        o' = o + (lookupsSection version lookups).length := by
  cases version with
  | legacy =>
    simp only [lookupsStep, run_pure, Except.ok.injEq, Prod.mk.injEq]
    constructor
    · rintro ⟨rfl, rfl⟩
      exact ⟨[], lookupsWellFormed_legacy, List.nil_prefix, by simp, rfl, rfl⟩
    · rintro ⟨lookups, -, -, -, rfl, rfl⟩
      exact ⟨rfl, rfl⟩
  | v0 =>
    rw [lookupsStep, AddressTableLookupFrame.tryNew_eq_ok]
    constructor
    · rintro ⟨lookups, hle, hws, hpre, hroom, hw, hr, rfl, rfl⟩
      exact ⟨lookups, ⟨(fun h => nomatch h), hle, hws, hw, hr⟩, hpre, hroom, rfl,
        by rw [lookupsSection, List.length_cons]; omega⟩
    · rintro ⟨lookups, hwf, hpre, hroom, rfl, rfl⟩
      exact ⟨lookups, hwf.length_le, hwf.wellSized, hpre, hroom, hwf.totalWritable_lt,
        hwf.totalReadonly_lt, rfl, by rw [lookupsSection, List.length_cons]; omega⟩

/-- The room the pass checks for the lookups, in a buffer that the lookups section ends, is room
among the lookups' own bytes. -/
theorem lookups_room_iff {bytes : List UInt8} {s : Nat} {version : TransactionVersion}
    {lookups : List SVMMessageAddressTableLookup} (hwf : LookupsWellFormed version lookups)
    (hend : bytes.length = s + (lookupsSection version lookups).length) :
    minSizedAtl * lookups.length ≤ bytes.length - (s + 1) ↔
      minSizedAtl * lookups.length ≤
        (lookups.flatMap SVMMessageAddressTableLookup.toBytes).length := by
  cases version with
  | legacy =>
    rw [hwf.legacy rfl, List.length_nil, Nat.mul_zero]
    exact iff_of_true (Nat.zero_le _) (Nat.zero_le _)
  | v0 =>
    rw [lookupsSection, List.length_cons] at hend
    constructor <;> intro h <;> omega

/-- The pass with its step on the version named: the branches on the version join at the final
check. -/
theorem parse_eq (bytes : List UInt8) :
    TransactionFrame.parse bytes = (do
      let signature ← SignatureFrame.tryNew bytes
      let messageHeader ← MessageHeaderFrame.tryNew bytes
      let staticAccountKeys ← StaticAccountKeysFrame.tryNew bytes
      let recentBlockhashOffset := UInt16.ofNat (← get)
      advanceOffsetForType 32 bytes
      let instructions ← InstructionsFrame.tryNew bytes
      let addressTableLookup ← lookupsStep bytes messageHeader.version
      failIf ((← get) ≠ bytes.length) .parseError
      pure { signature, messageHeader, staticAccountKeys, recentBlockhashOffset, instructions,
             addressTableLookup }) := by
  simp only [TransactionFrame.parse]
  congr 1
  funext signature
  congr 1
  funext messageHeader
  congr 1
  funext staticAccountKeys
  congr 1
  funext recentBlockhashOffset
  congr 1
  funext u
  congr 1
  funext instructions
  cases messageHeader.version <;> rfl

/-! ## What the pass read -/

section Read

variable {bytes : List UInt8} {o o' : Nat}

/-- A counted array step read a count byte and that many items of `size` bytes, for any
encoding that writes back every block of `size` bytes it decodes. -/
theorem countedArrayFrame_items {β : Type} {dec : List UInt8 → β} {enc : β → List UInt8}
    {size : Nat} (henc : ∀ b : List UInt8, b.length = size → enc (dec b) = b) {max n : UInt8}
    {offset : UInt16} (h : (countedArrayFrame size max bytes).run o = .ok ((n, offset), o')) :
    ∃ items : List β, 0 < items.length ∧ items.length ≤ max.toNat ∧
      UInt8.ofNat items.length :: items.flatMap enc <+: bytes.drop o ∧
      n = UInt8.ofNat items.length ∧ offset = UInt16.ofNat (o + 1) ∧
      o' = o + 1 + size * items.length := by
  obtain ⟨hn, hn0, hmax, hroom, rfl, rfl⟩ := countedArrayFrame_eq_ok.mp h
  obtain ⟨items, hlen, hpre⟩ := exists_prefix_drop_of_decode henc (by rw [Nat.mul_comm]; exact hroom)
  have hn' : n = UInt8.ofNat items.length := by rw [hlen, UInt8.ofNat_toNat]
  refine ⟨items, ?_, ?_, ?_, hn', rfl, by rw [hlen, Nat.mul_comm]⟩
  · -- a count byte of zero is refused
    rw [hlen, Nat.pos_iff_ne_zero]
    exact fun h0 => hn0 (UInt8.toNat_inj.mp h0)
  · rw [hlen]
    exact UInt8.le_iff_toNat_le.mp hmax
  · rw [← hn']
    exact prefix_drop_cons.mpr ⟨hn, hpre⟩

/-- A count byte and that many items of `size` bytes pass a counted array step, when there are
between `1` and `max` of them. -/
theorem countedArrayFrame_of_items {β : Type} {enc : β → List UInt8} {size : Nat}
    (hsize : ∀ b, (enc b).length = size) {max : UInt8} {items : List β}
    (hpos : 0 < items.length) (hle : items.length ≤ max.toNat)
    (hpre : UInt8.ofNat items.length :: items.flatMap enc <+: bytes.drop o) :
    (countedArrayFrame size max bytes).run o =
      .ok ((UInt8.ofNat items.length, UInt16.ofNat (o + 1)), o + 1 + size * items.length) := by
  have hlen : (UInt8.ofNat items.length).toNat = items.length :=
    UInt8.toNat_ofNat_of_lt' (Nat.lt_of_le_of_lt hle max.toNat_lt_size)
  obtain ⟨hn, hitems⟩ := prefix_drop_cons.mp hpre
  have hroom : size * items.length ≤ bytes.length - (o + 1) := by
    have := hitems.length_le
    rwa [length_flatMap_const hsize, List.length_drop] at this
  refine countedArrayFrame_eq_ok.mpr ⟨hn, ?_, ?_, by rw [hlen, Nat.mul_comm]; exact hroom, rfl,
    by rw [hlen, Nat.mul_comm]⟩
  · -- the count is not zero
    intro h0
    have := congrArg UInt8.toNat h0
    rw [hlen, UInt8.toNat_zero] at this
    omega
  · rw [UInt8.le_iff_toNat_le, hlen]
    exact hle

/-- Skipping 32 bytes passed over a hash. -/
theorem advanceOffsetForType_hash {u : Unit}
    (h : (advanceOffsetForType 32 bytes).run o = .ok (u, o')) :
    (Hash.ofBytes ((bytes.drop o).take 32)).toBytes <+: bytes.drop o ∧ o' = o + 32 := by
  obtain ⟨hroom, rfl⟩ := advanceOffsetForType_eq_ok.mp h
  have hlen : ((bytes.drop o).take 32).length = 32 := by
    rw [List.length_take, List.length_drop]
    omega
  rw [Hash.toBytes_ofBytes hlen]
  exact ⟨List.take_prefix _ _, rfl⟩

end Read

/-! ## What `try_new` accepts -/

/-- Every buffer the pass accepts is the bytes of a well-formed transaction, and the pass
returns the frame that records it. -/
theorem parse_eq_ok {bytes : List UInt8} {frame : TransactionFrame} {o' : Nat}
    (h : (TransactionFrame.parse bytes).run 0 = .ok (frame, o')) :
    ∃ tx : Transaction, tx.WellFormed ∧ tx.toBytes = bytes ∧ tx.Records frame := by
  -- the steps of the pass and the states they leave
  rw [parse_eq] at h
  obtain ⟨⟨n, sigOffset⟩, s₁, hsig, h⟩ := run_bind_eq_ok h
  obtain ⟨⟨headerOffset, version, required, roSigned, roUnsigned⟩, s₂, hheader, h⟩ :=
    run_bind_eq_ok h
  obtain ⟨⟨k, keysOffset⟩, s₃, hkeys, h⟩ := run_bind_eq_ok h
  rw [run_get_bind] at h
  obtain ⟨_, s₄, hblockhash, h⟩ := run_bind_eq_ok h
  obtain ⟨instrs, s₅, hinstrs, h⟩ := run_bind_eq_ok h
  obtain ⟨atl, s₆, hatl, h⟩ := run_bind_eq_ok h
  rw [run_get_bind] at h
  obtain ⟨_, s₇, hend, h⟩ := run_bind_eq_ok h
  obtain ⟨rfl, -⟩ := run_pure_eq_ok h
  -- what each step read
  obtain ⟨sigs, hsigs0, hsigsle, hsigpre, rfl, rfl, hs₁⟩ :=
    countedArrayFrame_items (fun _ hb => Signature.toBytes_ofBytes hb)
      (SignatureFrame.tryNew_eq_ok.mp hsig)
  have hheader' := MessageHeaderFrame.tryNew_eq_ok.mp hheader
  dsimp only at hheader'
  obtain ⟨hheaderpre, hlegacy, rfl, hs₂⟩ := hheader'
  obtain ⟨keys, hkeys0, hkeysle, hkeypre, rfl, rfl, hs₃⟩ :=
    countedArrayFrame_items (fun _ hb => Pubkey.toBytes_ofBytes hb)
      (StaticAccountKeysFrame.tryNew_eq_ok.mp hkeys)
  obtain ⟨hbhpre, hs₄⟩ := advanceOffsetForType_hash hblockhash
  obtain ⟨inss, hilt, hiws, hipre, hinum, hioff, hiframes, hs₅⟩ :=
    InstructionsFrame.tryNew_eq_ok.mp hinstrs
  dsimp only at hatl
  obtain ⟨lookups, hlwf, hlpre, hlroom, rfl, hs₆⟩ := lookupsStep_eq_ok.mp hatl
  obtain ⟨hlast, -⟩ := failIf_eq_ok.mp hend
  let tx : Transaction := ⟨sigs, version, required, roSigned, roUnsigned, keys,
    Hash.ofBytes ((bytes.drop s₃).take 32), inss, lookups⟩
  -- the sections start at the states the pass went through
  have hp₁ : tx.messageOffset = s₁ := by
    rw [messageOffset_eq]
    show 1 + 64 * sigs.length = s₁
    omega
  have hp₂ : tx.staticAccountKeysStart = s₂ := by
    rw [staticAccountKeysStart_eq, hp₁]
    exact hs₂.symm
  have hp₃ : tx.recentBlockhashOffset = s₃ := by
    rw [recentBlockhashOffset_eq, hp₂]
    exact hs₃.symm
  have hp₄ : tx.instructionsStart = s₄ := by
    rw [instructionsStart, hp₃]
    exact hs₄.symm
  have hp₅ : tx.lookupsStart = s₅ := by
    rw [lookupsStart_eq, instructionsOffset, hp₄]
    exact hs₅.symm
  have hlen : bytes.length = s₅ + (lookupsSection version lookups).length := by omega
  have hwf : tx.WellFormed :=
    ⟨hsigs0, hsigsle, hlegacy, hkeys0, hkeysle, hilt, hiws, hlwf,
      (lookups_room_iff hlwf hlen).mp hlroom⟩
  have hpre : tx.toBytes <+: bytes := by
    rw [toBytes_prefix_iff, hp₁, hp₂, hp₃, hp₄, hp₅]
    exact ⟨hsigpre, hheaderpre, hkeypre, hbhpre, hipre, hlpre⟩
  refine ⟨tx, hwf, hpre.eq_of_length (by rw [length_toBytes, hp₅, hlen]), ?_⟩
  exact ⟨rfl, by rw [hp₁], by rw [hp₂], by rw [hp₃], hinum, by rw [instructionsOffset, hp₄, hioff],
    hiframes, by rw [hp₅]⟩

/-- The bytes of a well-formed transaction pass every step of the pass, to the end of the buffer,
and the pass returns the transaction's frame. -/
theorem parse_toBytes {tx : Transaction} (hwf : tx.WellFormed) :
    (TransactionFrame.parse tx.toBytes).run 0 =
      .ok (tx.frame hwf.instructions_lt, tx.toBytes.length) := by
  obtain ⟨hsigpre, hheaderpre, hkeypre, hbhpre, hipre, hlpre⟩ :=
    (toBytes_prefix_iff tx).mp (List.prefix_refl _)
  have hend := length_toBytes tx
  -- each step reads its section and stops where the next one starts
  have hsig : (SignatureFrame.tryNew tx.toBytes).run 0 =
      .ok ((tx.frame hwf.instructions_lt).signature, tx.messageOffset) := by
    rw [SignatureFrame.tryNew_eq_ok, countedArrayFrame_of_items Signature.length_toBytes
      hwf.signatures_pos hwf.signatures_le (by rwa [List.drop_zero]), messageOffset_eq]
    rfl
  have hheader : (MessageHeaderFrame.tryNew tx.toBytes).run tx.messageOffset =
      .ok ((tx.frame hwf.instructions_lt).messageHeader, tx.staticAccountKeysStart) :=
    MessageHeaderFrame.tryNew_eq_ok.mpr
      ⟨hheaderpre, hwf.legacy_required, rfl, staticAccountKeysStart_eq tx⟩
  have hkeys : (StaticAccountKeysFrame.tryNew tx.toBytes).run tx.staticAccountKeysStart =
      .ok ((tx.frame hwf.instructions_lt).staticAccountKeys, tx.recentBlockhashOffset) := by
    rw [StaticAccountKeysFrame.tryNew_eq_ok, countedArrayFrame_of_items Pubkey.length_toBytes
      hwf.staticAccountKeys_pos hwf.staticAccountKeys_le hkeypre, recentBlockhashOffset_eq]
    rfl
  have hblockhash : (advanceOffsetForType 32 tx.toBytes).run tx.recentBlockhashOffset =
      .ok ((), tx.instructionsStart) := by
    have hroom := hbhpre.length_le
    rw [Hash.length_toBytes, List.length_drop] at hroom
    exact advanceOffsetForType_eq_ok.mpr ⟨hroom, rfl⟩
  have hinstrs : (InstructionsFrame.tryNew tx.toBytes).run tx.instructionsStart =
      .ok ((tx.frame hwf.instructions_lt).instructions, tx.lookupsStart) :=
    InstructionsFrame.tryNew_eq_ok.mpr ⟨tx.instructions, hwf.instructions_lt,
      hwf.instructions_wellSized, hipre, rfl, rfl, rfl, by rw [lookupsStart_eq, instructionsOffset]⟩
  have hlookups : (lookupsStep tx.toBytes (tx.frame hwf.instructions_lt).messageHeader.version).run
      tx.lookupsStart =
      .ok ((tx.frame hwf.instructions_lt).addressTableLookup, tx.toBytes.length) :=
    lookupsStep_eq_ok.mpr ⟨tx.addressTableLookups, hwf.lookups, hlpre,
      (lookups_room_iff hwf.lookups hend).mpr hwf.lookups_room, rfl, hend⟩
  have hlast : (failIf (tx.toBytes.length ≠ tx.toBytes.length) .parseError).run
      tx.toBytes.length = .ok ((), tx.toBytes.length) :=
    failIf_eq_ok.mpr ⟨not_not.mpr rfl, rfl⟩
  rw [parse_eq, run_bind_of_eq_ok hsig, run_bind_of_eq_ok hheader, run_bind_of_eq_ok hkeys,
    run_get_bind, run_bind_of_eq_ok hblockhash, run_bind_of_eq_ok hinstrs,
    run_bind_of_eq_ok hlookups, run_get_bind, run_bind_of_eq_ok hlast]
  rfl

/-- `TransactionFrame::try_new` accepts a buffer exactly when it is the bytes of a well-formed
transaction, and then returns the frame that records it. -/
theorem tryNew_eq_ok_iff_wellFormed {bytes : List UInt8} {frame : TransactionFrame} :
    TransactionFrame.tryNew bytes = .ok frame ↔
      ∃ tx : Transaction, tx.WellFormed ∧ tx.toBytes = bytes ∧ tx.Records frame := by
  rw [TransactionFrame.tryNew, run'_eq_ok]
  constructor
  · rintro ⟨o', h⟩
    exact parse_eq_ok h
  · rintro ⟨tx, hwf, rfl, hrec⟩
    rw [hrec.frame_eq (tx.records_frame hwf.instructions_lt)]
    exact ⟨_, parse_toBytes hwf⟩

end Transaction

end TRv1.TransactionView
