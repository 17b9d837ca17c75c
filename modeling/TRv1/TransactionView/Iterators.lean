import TRv1.TransactionView.Transaction

/-!
# What the iterators of a frame yield

`instructions_iter` and `address_table_lookup_iter` walk the bytes again, from the positions the
frame recorded. Each iterator reads back a list of items when its position holds their bytes
and its count says how many are left (`InstructionsIterator.ReadsBack`,
`AddressTableLookupIterator.ReadsBack`): it then yields exactly those items
(`toList_eq_of_readsBack`), one step at a time through `Iterator.collect_eq_of_steps`.

The frame records both positions as `u16`. The instructions start within the first few thousand
bytes, so the instructions iterator yields the walked instructions of every accepted buffer. The
lookups start after the instructions, whose data only compact-u16 bounds: when their position
is below `2 ^ 16`, as in every buffer shorter than that, the lookups iterator yields the walked
lookups; otherwise it starts at the position modulo `2 ^ 16`, inside the data of an instruction.
-/

set_option autoImplicit false

namespace TRv1.TransactionView

open StateExcept ListAt

namespace SVMInstruction

variable {i : SVMInstruction}

theorem toNat_frame_numAccounts (h : i.WellSized) :
    i.frame.numAccounts.toNat = i.accounts.length :=
  Wire.toNat_ofNat_of_lt h.1

theorem toNat_frame_dataLen (h : i.WellSized) : i.frame.dataLen.toNat = i.data.length :=
  Wire.toNat_ofNat_of_lt h.2

theorem toNat_frame_numAccountsLen (i : SVMInstruction) :
    i.frame.numAccountsLen.toNat = Wire.compactLen i.accounts.length :=
  Wire.toNat_toUInt8_of_lt (by have := Wire.compactLen_le_two i.accounts.length; omega)

theorem toNat_frame_dataLenLen (i : SVMInstruction) :
    i.frame.dataLenLen.toNat = Wire.compactLen i.data.length :=
  Wire.toNat_toUInt8_of_lt (by have := Wire.compactLen_le_two i.data.length; omega)

end SVMInstruction

/-! ## The instructions -/

namespace InstructionsIterator

variable {bytes : List UInt8} {o : Nat}

/-- What `readInstruction` reads at `o`: the unchecked readers take what the frame's lengths
say. -/
theorem readInstruction_run (f : InstructionFrame) :
    (readInstruction bytes f).run o =
      (⟨bytes.getD o 0,
        (bytes.drop (o + 1 + f.numAccountsLen.toNat)).take f.numAccounts.toNat,
        (bytes.drop (o + 1 + f.numAccountsLen.toNat + f.numAccounts.toNat +
          f.dataLenLen.toNat)).take f.dataLen.toNat⟩,
        o + 1 + f.numAccountsLen.toNat + f.numAccounts.toNat + f.dataLenLen.toNat +
          f.dataLen.toNat) :=
  rfl

/-- At the bytes of a well-sized instruction, `readInstruction` with the instruction's frame
reads the instruction back and stops after it. -/
theorem readInstruction_frame {i : SVMInstruction} (hws : i.WellSized)
    (hpre : i.toBytes <+: bytes.drop o) :
    (readInstruction bytes i.frame).run o = (i, o + i.toBytes.length) := by
  obtain ⟨hp, hrest⟩ := prefix_drop_cons.mp hpre
  obtain ⟨hacc, hdata⟩ := prefix_drop_append.mp hrest
  obtain ⟨-, -, hacc'⟩ := shortVec_prefix_drop.mp hacc
  obtain ⟨-, -, hdata'⟩ := shortVec_prefix_drop.mp hdata
  -- the data starts after the count of accounts and the accounts
  rw [Wire.length_shortVec, ← Nat.add_assoc] at hdata'
  rw [readInstruction_run, SVMInstruction.toNat_frame_numAccountsLen,
    SVMInstruction.toNat_frame_numAccounts hws, SVMInstruction.toNat_frame_dataLenLen,
    SVMInstruction.toNat_frame_dataLen hws, ← hacc', ← hdata', List.getD_eq_getElem?_getD, hp,
    Option.getD_some, SVMInstruction.length_toBytes, Wire.length_shortVec, Wire.length_shortVec]
  refine Prod.ext rfl ?_
  dsimp only
  omega

/-- The iterator stands at the bytes of `rest`, the instructions it has still to yield, with
their frames as its remaining frames and their number as its remaining count. -/
structure ReadsBack (bytes : List UInt8) (it : InstructionsIterator)
    (rest : List SVMInstruction) : Prop where
  index_add : it.index.toNat + rest.length = it.numInstructions.toNat
  frames_drop : it.frames.drop it.index.toNat = rest.map SVMInstruction.frame
  wellSized : ∀ i ∈ rest, i.WellSized
  atOffset : rest.flatMap SVMInstruction.toBytes <+: bytes.drop it.offset

/-- One step yields the first instruction left and moves past its bytes. -/
theorem next_of_readsBack {it : InstructionsIterator} {i : SVMInstruction}
    {rest : List SVMInstruction} (h : ReadsBack bytes it (i :: rest)) :
    ∃ it', next bytes it = some (i, it') ∧ ReadsBack bytes it' rest := by
  have hidx : it.index.toNat < it.numInstructions.toNat := by
    have := h.index_add
    rw [List.length_cons] at this
    omega
  have hframes : it.frames.drop it.index.toNat = i.frame :: rest.map SVMInstruction.frame := by
    rw [h.frames_drop, List.map_cons]
  obtain ⟨hget, hdrop⟩ := getElem?_of_drop_eq_cons hframes
  obtain ⟨_, hframe⟩ := List.getElem?_eq_some_iff.mp hget
  have hat := h.atOffset
  rw [List.flatMap_cons] at hat
  obtain ⟨hi, hrest⟩ := prefix_drop_append.mp hat
  have hsucc : (it.index + 1).toNat = it.index.toNat + 1 := by
    have hlt : it.numInstructions.toNat < 2 ^ 16 := it.numInstructions.toNat_lt_size
    rw [UInt16.toNat_add, UInt16.toNat_one, Nat.mod_eq_of_lt (by omega)]
  refine ⟨{ it with offset := it.offset + i.toBytes.length, index := it.index + 1 }, ?_, ?_⟩
  · rw [next, dif_pos (UInt16.lt_iff_toNat_lt.mpr hidx)]
    simp only [hframe, readInstruction_frame (h.wellSized i List.mem_cons_self) hi]
  · refine ⟨?_, ?_, fun j hj => h.wellSized j (List.mem_cons_of_mem i hj), hrest⟩
    · have := h.index_add
      rw [List.length_cons] at this
      dsimp only
      omega
    · dsimp only
      rw [hsucc]
      exact hdrop

theorem len_of_readsBack {it : InstructionsIterator} {rest : List SVMInstruction}
    (h : ReadsBack bytes it rest) : it.len = rest.length := by
  have := h.index_add
  rw [len, UInt16.toNat_sub_of_le _ _ (UInt16.le_iff_toNat_le.mpr (by omega))]
  omega

/-- An iterator that reads back a list yields exactly that list. -/
theorem toList_eq_of_readsBack {it : InstructionsIterator} {rest : List SVMInstruction}
    (h : ReadsBack bytes it rest) : it.toList bytes = rest := by
  rw [toList, len_of_readsBack h]
  exact Iterator.collect_eq_of_steps (ReadsBack bytes)
    (fun _ _ _ hR => next_of_readsBack hR) rest it h

end InstructionsIterator

/-! ## The lookups -/

namespace AddressTableLookupIterator

variable {bytes : List UInt8}

/-- The iterator stands at the bytes of `rest`, the lookups it has still to yield, with their
number as its remaining count. -/
structure ReadsBack (bytes : List UInt8) (it : AddressTableLookupIterator)
    (rest : List SVMMessageAddressTableLookup) : Prop where
  index_add : it.index.toNat + rest.length = it.numAddressTableLookups.toNat
  wellSized : ∀ l ∈ rest, l.WellSized
  atOffset : rest.flatMap SVMMessageAddressTableLookup.toBytes <+: bytes.drop it.offset

/-- One step parses the first lookup left and moves past its bytes. -/
theorem next_of_readsBack {it : AddressTableLookupIterator} {l : SVMMessageAddressTableLookup}
    {rest : List SVMMessageAddressTableLookup} (h : ReadsBack bytes it (l :: rest)) :
    ∃ it', next bytes it = some (l, it') ∧ ReadsBack bytes it' rest := by
  have hidx : it.index.toNat < it.numAddressTableLookups.toNat := by
    have := h.index_add
    rw [List.length_cons] at this
    omega
  have hat := h.atOffset
  rw [List.flatMap_cons] at hat
  obtain ⟨hl, hrest⟩ := prefix_drop_append.mp hat
  have hread : (readLookup bytes).run it.offset = .ok (l, it.offset + l.toBytes.length) :=
    readLookup_eq_ok.mpr ⟨h.wellSized l List.mem_cons_self, hl, rfl⟩
  have hsucc : (it.index + 1).toNat = it.index.toNat + 1 := by
    have hlt : it.numAddressTableLookups.toNat < 2 ^ 8 := it.numAddressTableLookups.toNat_lt_size
    rw [UInt8.toNat_add, UInt8.toNat_one, Nat.mod_eq_of_lt (by omega)]
  refine ⟨{ it with offset := it.offset + l.toBytes.length, index := it.index + 1 }, ?_, ?_⟩
  · rw [next, if_pos (UInt8.lt_iff_toNat_lt.mpr hidx), hread]
  · refine ⟨?_, fun j hj => h.wellSized j (List.mem_cons_of_mem l hj), hrest⟩
    have := h.index_add
    rw [List.length_cons] at this
    dsimp only
    omega

theorem len_of_readsBack {it : AddressTableLookupIterator}
    {rest : List SVMMessageAddressTableLookup} (h : ReadsBack bytes it rest) :
    it.len = rest.length := by
  have := h.index_add
  rw [len, UInt8.toNat_sub_of_le _ _ (UInt8.le_iff_toNat_le.mpr (by omega))]
  omega

/-- An iterator that reads back a list yields exactly that list. -/
theorem toList_eq_of_readsBack {it : AddressTableLookupIterator}
    {rest : List SVMMessageAddressTableLookup} (h : ReadsBack bytes it rest) :
    it.toList bytes = rest := by
  rw [toList, len_of_readsBack h]
  exact Iterator.collect_eq_of_steps (ReadsBack bytes)
    (fun _ _ _ hR => next_of_readsBack hR) rest it h

end AddressTableLookupIterator

/-! ## The iterators of a transaction's frame -/

theorem length_versionPrefix_le (version : TransactionVersion) :
    (versionPrefix version).length ≤ 1 := by
  cases version <;> decide

namespace Transaction

variable {tx : Transaction}

/-- The instructions start within the first few thousand bytes: at most twelve signatures and
thirty-eight static keys come before them. -/
theorem instructionsOffset_lt (hwf : tx.WellFormed) : tx.instructionsOffset < 2 ^ 16 := by
  have hsigs := hwf.signatures_le
  have hkeys := hwf.staticAccountKeys_le
  have hmaxSigs : maxSignaturesPerPacket.toNat = 12 := by decide
  have hmaxKeys : maxStaticAccountsPerPacket.toNat = 38 := by decide
  have hversion := length_versionPrefix_le tx.version
  have hcount := Wire.compactLen_le_two tx.instructions.length
  rw [instructionsOffset, instructionsStart, recentBlockhashOffset_eq, staticAccountKeysStart_eq,
    messageOffset_eq]
  omega

/-- The instructions iterator of a well-formed transaction's frame starts at the bytes of its
instructions. -/
theorem instructionsIter_readsBack (hwf : tx.WellFormed) :
    InstructionsIterator.ReadsBack tx.toBytes (tx.frame hwf.instructions_lt).instructionsIter
      tx.instructions := by
  have hoffset : (UInt16.ofNat tx.instructionsOffset).toNat = tx.instructionsOffset :=
    UInt16.toNat_ofNat_of_lt' (instructionsOffset_lt hwf)
  obtain ⟨-, -, -, -, hipre, -⟩ := (toBytes_prefix_iff tx).mp (List.prefix_refl _)
  obtain ⟨-, hinstrs⟩ := prefix_drop_append.mp hipre
  rw [Wire.length_encodeCompactU16] at hinstrs
  refine ⟨?_, rfl, hwf.instructions_wellSized, ?_⟩
  · show (0 : UInt16).toNat + _ = (UInt16.ofNat tx.instructions.length).toNat
    rw [Wire.toNat_ofNat_of_lt hwf.instructions_lt, UInt16.toNat_zero, Nat.zero_add]
  · show _ <+: tx.toBytes.drop (UInt16.ofNat tx.instructionsOffset).toNat
    rw [hoffset]
    exact hinstrs

/-- The instructions iterator of a well-formed transaction's frame yields its instructions. -/
theorem instructionsIter_toList (hwf : tx.WellFormed) :
    (tx.frame hwf.instructions_lt).instructionsIter.toList tx.toBytes = tx.instructions :=
  InstructionsIterator.toList_eq_of_readsBack (instructionsIter_readsBack hwf)

/-- The lookups iterator of a well-formed transaction's frame starts at the bytes of its lookups
when their position fits a `u16`; a legacy message has none. -/
theorem addressTableLookupIter_readsBack (hwf : tx.WellFormed)
    (hoffset : tx.version = .v0 → tx.addressTableLookupsOffset < 2 ^ 16) :
    AddressTableLookupIterator.ReadsBack tx.toBytes
      (tx.frame hwf.instructions_lt).addressTableLookupIter tx.addressTableLookups := by
  obtain ⟨-, -, -, -, -, hlpre⟩ := (toBytes_prefix_iff tx).mp (List.prefix_refl _)
  have hlen : tx.addressTableLookups.length < 2 ^ 8 := by
    have hle := hwf.lookups.length_le
    rw [maxAtlsPerPacket_toNat] at hle
    omega
  show AddressTableLookupIterator.ReadsBack tx.toBytes
    ⟨(lookupFrameAt tx.version tx.addressTableLookups tx.lookupsStart).offset.toNat,
      (lookupFrameAt tx.version tx.addressTableLookups tx.lookupsStart).numAddressTableLookups,
      0⟩ tx.addressTableLookups
  cases hversion : tx.version with
  | legacy =>
    rw [hwf.lookups.legacy hversion]
    exact ⟨rfl, fun _ h => absurd h List.not_mem_nil, List.nil_prefix⟩
  | v0 =>
    rw [hversion, lookupsSection] at hlpre
    refine ⟨?_, hwf.lookups.wellSized, ?_⟩
    · show (0 : UInt8).toNat + _ = (UInt8.ofNat tx.addressTableLookups.length).toNat
      rw [UInt8.toNat_ofNat_of_lt' hlen, UInt8.toNat_zero, Nat.zero_add]
    · show _ <+: tx.toBytes.drop (UInt16.ofNat (tx.lookupsStart + 1)).toNat
      rw [UInt16.toNat_ofNat_of_lt' (n := tx.lookupsStart + 1) (hoffset hversion)]
      exact (prefix_drop_cons.mp hlpre).2

/-- The lookups iterator of a well-formed transaction's frame yields its lookups when their
position fits a `u16`. -/
theorem addressTableLookupIter_toList (hwf : tx.WellFormed)
    (hoffset : tx.version = .v0 → tx.addressTableLookupsOffset < 2 ^ 16) :
    (tx.frame hwf.instructions_lt).addressTableLookupIter.toList tx.toBytes =
      tx.addressTableLookups :=
  AddressTableLookupIterator.toList_eq_of_readsBack (addressTableLookupIter_readsBack hwf hoffset)

/-- The first lookup starts inside the buffer: the count byte of the lookups comes before it. -/
theorem addressTableLookupsOffset_le (hversion : tx.version = .v0) :
    tx.addressTableLookupsOffset ≤ tx.toBytes.length := by
  rw [addressTableLookupsOffset, length_toBytes, hversion, lookupsSection, List.length_cons]
  omega

/-- In a buffer shorter than `2 ^ 16` bytes, as the source takes every packet to be, the position
of the lookups fits a `u16`. -/
theorem addressTableLookupsOffset_lt (hlen : tx.toBytes.length < 2 ^ 16) :
    tx.version = .v0 → tx.addressTableLookupsOffset < 2 ^ 16 :=
  fun hversion => Nat.lt_of_le_of_lt (addressTableLookupsOffset_le hversion) hlen

/-- Past `2 ^ 16` bytes the lookups iterator starts at the position of the lookups modulo `2 ^ 16`,
which the frame kept of it. -/
theorem addressTableLookupIter_offset (hwf : tx.WellFormed) (hversion : tx.version = .v0) :
    (tx.frame hwf.instructions_lt).addressTableLookupIter.offset =
      tx.addressTableLookupsOffset % 2 ^ 16 := by
  change (lookupFrameAt tx.version tx.addressTableLookups tx.lookupsStart).offset.toNat = _
  rw [hversion]
  exact UInt16.toNat_ofNat'

/-- The totals the frame records are the numbers of indexes over the lookups. -/
theorem totals_frame (hwf : tx.WellFormed) :
    (tx.frame hwf.instructions_lt).addressTableLookup.totalWritableLookupAccounts.toNat =
        totalWritable tx.addressTableLookups ∧
      (tx.frame hwf.instructions_lt).addressTableLookup.totalReadonlyLookupAccounts.toNat =
        totalReadonly tx.addressTableLookups := by
  change (lookupFrameAt tx.version tx.addressTableLookups
      tx.lookupsStart).totalWritableLookupAccounts.toNat = _ ∧
    (lookupFrameAt tx.version tx.addressTableLookups
      tx.lookupsStart).totalReadonlyLookupAccounts.toNat = _
  cases hversion : tx.version with
  | legacy =>
    rw [hwf.lookups.legacy hversion]
    exact ⟨rfl, rfl⟩
  | v0 =>
    exact ⟨UInt16.toNat_ofNat_of_lt' hwf.lookups.totalWritable_lt,
      UInt16.toNat_ofNat_of_lt' hwf.lookups.totalReadonly_lt⟩

end Transaction

/-! ## Two transactions

`smallTransaction` is a `v0` transaction of a few hundred bytes; `wrapTransaction` is one whose
lookups start past `2 ^ 16` bytes, after four instructions of `2 ^ 14 - 1` data bytes, the first
of which carries the bytes of two other lookups where the position of the lookups wraps to. -/

/-- A lookup that names no account. -/
def emptyLookup : SVMMessageAddressTableLookup := ⟨⟨0⟩, [], []⟩

/-- A lookup that names one writable and one readonly account. -/
def namingLookup : SVMMessageAddressTableLookup := ⟨⟨0⟩, [0], [0]⟩

/-- A lookup that names one writable account. -/
def plantedLookup : SVMMessageAddressTableLookup := ⟨⟨0⟩, [0], []⟩

/-- An instruction of the program at index `1` that names no account. -/
def dataInstruction (data : List UInt8) : SVMInstruction := ⟨1, [], data⟩

@[simp] theorem dataInstruction_accounts (data : List UInt8) :
    (dataInstruction data).accounts = [] := rfl

@[simp] theorem dataInstruction_data (data : List UInt8) : (dataInstruction data).data = data :=
  rfl

/-- The checks of an instruction pass on an instruction of the program at index `1` that names
no account, when index `1` is the largest a program may have. -/
theorem sanitizeInstruction_dataInstruction {flag : Bool} {maxAccountIndex : UInt8}
    (data : List UInt8) : sanitizeInstruction flag 1 maxAccountIndex (dataInstruction data) = .ok () :=
  sanitizeInstruction_eq_ok.mpr ⟨(by decide : (1 : UInt8) ≤ 1), (by decide : (1 : UInt8) ≠ 0),
    fun _ ha => absurd ha List.not_mem_nil,
    fun h => absurd h.2 (by decide : ¬(([] : List UInt8).length > maxAccountsPerInstruction))⟩

/-- A `v0` transaction with one signature, two static keys, one instruction and one lookup. -/
def smallTransaction : Transaction where
  signatures := [⟨0⟩]
  version := .v0
  numRequiredSignatures := 1
  numReadonlySignedAccounts := 0
  numReadonlyUnsignedAccounts := 0
  staticAccountKeys := [⟨0⟩, ⟨0⟩]
  recentBlockhash := ⟨0⟩
  instructions := [dataInstruction []]
  addressTableLookups := [namingLookup]

theorem smallTransaction_wellFormed : smallTransaction.WellFormed where
  signatures_pos := by decide
  signatures_le := by decide
  legacy_required := by decide
  staticAccountKeys_pos := by decide
  staticAccountKeys_le := by decide
  instructions_lt := by decide
  instructions_wellSized := by decide
  lookups := ⟨by decide, by decide, by decide, by decide, by decide⟩
  lookups_room := by
    show minSizedAtl * [namingLookup].length ≤
      ([namingLookup].flatMap SVMMessageAddressTableLookup.toBytes).length
    simp [namingLookup, minSizedAtl, Wire.compactLen]

/-- The frame of `smallTransaction`. -/
def smallFrame : TransactionFrame := smallTransaction.frame smallTransaction_wellFormed.instructions_lt

theorem length_toBytes_smallTransaction : smallTransaction.toBytes.length = 207 := by
  rw [Transaction.length_toBytes, Transaction.lookupsStart_eq, Transaction.instructionsOffset,
    Transaction.instructionsStart, Transaction.recentBlockhashOffset_eq,
    Transaction.staticAccountKeysStart_eq, Transaction.messageOffset_eq]
  decide

/-- The view of `smallTransaction` passes `sanitize`. -/
theorem smallTransaction_sanitize :
    sanitize ⟨smallTransaction.toBytes, smallFrame⟩ false false = .ok () := by
  refine sanitize_eq_ok.mpr ⟨sanitizeSignatures_eq_ok.mpr ⟨by decide, by decide⟩,
    sanitizeAccountAccess_eq_ok.mpr ⟨by decide, by decide, by decide⟩,
    sanitizeInstructions_eq_ok.mpr ⟨by decide, ?_⟩, sanitizeAddressTableLookups_eq_ok.mpr ?_⟩
  · intro i hi
    change i ∈ (smallTransaction.frame
      smallTransaction_wellFormed.instructions_lt).instructionsIter.toList
        smallTransaction.toBytes at hi
    rw [Transaction.instructionsIter_toList smallTransaction_wellFormed] at hi
    rw [List.mem_singleton.mp hi]
    exact sanitizeInstruction_dataInstruction []
  · change ∀ l ∈ (smallTransaction.frame
      smallTransaction_wellFormed.instructions_lt).addressTableLookupIter.toList
        smallTransaction.toBytes, _
    rw [Transaction.addressTableLookupIter_toList smallTransaction_wellFormed
      (Transaction.addressTableLookupsOffset_lt (by rw [length_toBytes_smallTransaction]; decide))]
    decide

/-! ## Accepted buffers -/

section Accepted

variable {bytes : List UInt8} {frame : TransactionFrame}

/-- `try_new` accepts the bytes of a well-formed transaction and returns its frame. -/
theorem Transaction.tryNew_toBytes {tx : Transaction} (hwf : tx.WellFormed) :
    TransactionFrame.tryNew tx.toBytes = .ok (tx.frame hwf.instructions_lt) :=
  run'_eq_ok.mpr ⟨_, Transaction.parse_toBytes hwf⟩

/-- An accepted buffer is the bytes of a well-formed transaction, and the frame is its frame. -/
theorem exists_transaction_of_tryNew (h : TransactionFrame.tryNew bytes = .ok frame) :
    ∃ tx : Transaction, ∃ hwf : tx.WellFormed,
      tx.toBytes = bytes ∧ frame = tx.frame hwf.instructions_lt := by
  obtain ⟨o', hparse⟩ := run'_eq_ok.mp h
  obtain ⟨tx, hwf, htx, hrec⟩ := Transaction.parse_eq_ok hparse
  exact ⟨tx, hwf, htx, hrec.frame_eq (tx.records_frame hwf.instructions_lt)⟩

/-- The lookups iterator of a well-formed transaction shorter than `2 ^ 16` bytes yields its
lookups, as many as the frame counts, and the frame's totals are their numbers of indexes. -/
theorem Transaction.lookups_frame {tx : Transaction} (hwf : tx.WellFormed)
    (hlen : tx.toBytes.length < 2 ^ 16) :
    (tx.frame hwf.instructions_lt).addressTableLookupIter.toList tx.toBytes =
        tx.addressTableLookups ∧
      tx.addressTableLookups.length =
        (tx.frame hwf.instructions_lt).addressTableLookup.numAddressTableLookups.toNat ∧
      totalWritable tx.addressTableLookups =
        (tx.frame hwf.instructions_lt).addressTableLookup.totalWritableLookupAccounts.toNat ∧
      totalReadonly tx.addressTableLookups =
        (tx.frame hwf.instructions_lt).addressTableLookup.totalReadonlyLookupAccounts.toNat := by
  have hreads :=
    Transaction.addressTableLookupIter_readsBack hwf (Transaction.addressTableLookupsOffset_lt hlen)
  have hcount : tx.addressTableLookups.length =
      (tx.frame hwf.instructions_lt).addressTableLookup.numAddressTableLookups.toNat := by
    have hindex := hreads.index_add
    change (0 : UInt8).toNat + _ = _ at hindex
    rwa [UInt8.toNat_zero, Nat.zero_add] at hindex
  obtain ⟨hw, hr⟩ := Transaction.totals_frame hwf
  exact ⟨AddressTableLookupIterator.toList_eq_of_readsBack hreads, hcount, hw.symm, hr.symm⟩

/-- A sanitized view of a well-formed transaction shorter than `2 ^ 16` bytes: the check of the
lookups saw the walked lookups, so none of them has both index lists empty. -/
theorem Transaction.lookups_nonempty_of_sanitize {tx : Transaction} (hwf : tx.WellFormed)
    (hlen : tx.toBytes.length < 2 ^ 16) {f₁ f₂ : Bool}
    (hsanitize : TRv1.TransactionView.sanitize ⟨tx.toBytes, tx.frame hwf.instructions_lt⟩ f₁ f₂ =
      .ok ()) :
    ∀ l ∈ tx.addressTableLookups, l.writableIndexes ≠ [] ∨ l.readonlyIndexes ≠ [] := by
  have hiter :=
    Transaction.addressTableLookupIter_toList hwf (Transaction.addressTableLookupsOffset_lt hlen)
  obtain ⟨-, -, -, hlookups⟩ := sanitize_eq_ok.mp hsanitize
  intro l hl
  have hseen : l ∈ (⟨tx.toBytes, tx.frame hwf.instructions_lt⟩ :
      TransactionView false).addressTableLookups := by
    change l ∈ (tx.frame hwf.instructions_lt).addressTableLookupIter.toList tx.toBytes
    rw [hiter]
    exact hl
  have hnonempty := sanitizeAddressTableLookups_eq_ok.mp hlookups l hseen
  rw [List.isEmpty_iff, List.isEmpty_iff] at hnonempty
  exact not_and_or.mp hnonempty

/-- For every buffer `try_new` accepts, the instructions iterator yields the instructions the
pass walked, in order, as many as the frame counts. -/
theorem tryNew_instructionsIter (h : TransactionFrame.tryNew bytes = .ok frame) :
    ∃ tx : Transaction, tx.WellFormed ∧ tx.toBytes = bytes ∧ tx.Records frame ∧
      frame.instructionsIter.toList bytes = tx.instructions ∧
      tx.instructions.length = frame.instructions.numInstructions.toNat := by
  obtain ⟨tx, hwf, rfl, rfl⟩ := exists_transaction_of_tryNew h
  exact ⟨tx, hwf, rfl, tx.records_frame hwf.instructions_lt,
    Transaction.instructionsIter_toList hwf, (Wire.toNat_ofNat_of_lt hwf.instructions_lt).symm⟩

theorem tryNew_instructionsIter_smallTransaction :
    TransactionFrame.tryNew smallTransaction.toBytes = .ok smallFrame ∧
      ∃ tx : Transaction, tx.WellFormed ∧ tx.toBytes = smallTransaction.toBytes ∧
        tx.Records smallFrame ∧
        smallFrame.instructionsIter.toList smallTransaction.toBytes = tx.instructions ∧
        tx.instructions.length = smallFrame.instructions.numInstructions.toNat :=
  ⟨Transaction.tryNew_toBytes smallTransaction_wellFormed,
    tryNew_instructionsIter (Transaction.tryNew_toBytes smallTransaction_wellFormed)⟩

/-- For every buffer shorter than `2 ^ 16` bytes that `try_new` accepts, the lookups iterator
yields the lookups the pass walked, in order, as many as the frame counts, and the totals the
frame records are the numbers of their indexes. -/
theorem tryNew_addressTableLookupIter (h : TransactionFrame.tryNew bytes = .ok frame)
    (hlen : bytes.length < 2 ^ 16) :
    ∃ tx : Transaction, tx.WellFormed ∧ tx.toBytes = bytes ∧ tx.Records frame ∧
      frame.addressTableLookupIter.toList bytes = tx.addressTableLookups ∧
      tx.addressTableLookups.length = frame.addressTableLookup.numAddressTableLookups.toNat ∧
      totalWritable tx.addressTableLookups =
        frame.addressTableLookup.totalWritableLookupAccounts.toNat ∧
      totalReadonly tx.addressTableLookups =
        frame.addressTableLookup.totalReadonlyLookupAccounts.toNat := by
  obtain ⟨tx, hwf, rfl, rfl⟩ := exists_transaction_of_tryNew h
  obtain ⟨hiter, hcount, hw, hr⟩ := Transaction.lookups_frame hwf hlen
  exact ⟨tx, hwf, rfl, tx.records_frame hwf.instructions_lt, hiter, hcount, hw, hr⟩

theorem tryNew_addressTableLookupIter_smallTransaction :
    (TransactionFrame.tryNew smallTransaction.toBytes = .ok smallFrame ∧
        smallTransaction.toBytes.length < 2 ^ 16) ∧
      ∃ tx : Transaction, tx.WellFormed ∧ tx.toBytes = smallTransaction.toBytes ∧
        tx.Records smallFrame ∧
        smallFrame.addressTableLookupIter.toList smallTransaction.toBytes = tx.addressTableLookups ∧
        tx.addressTableLookups.length = smallFrame.addressTableLookup.numAddressTableLookups.toNat ∧
        totalWritable tx.addressTableLookups =
          smallFrame.addressTableLookup.totalWritableLookupAccounts.toNat ∧
        totalReadonly tx.addressTableLookups =
          smallFrame.addressTableLookup.totalReadonlyLookupAccounts.toNat :=
  have hlen : smallTransaction.toBytes.length < 2 ^ 16 := by
    rw [length_toBytes_smallTransaction]
    decide
  ⟨⟨Transaction.tryNew_toBytes smallTransaction_wellFormed, hlen⟩,
    tryNew_addressTableLookupIter (Transaction.tryNew_toBytes smallTransaction_wellFormed) hlen⟩

/-- Every view `try_new_sanitized` accepts of a buffer shorter than `2 ^ 16` bytes has no lookup,
among those the pass walked, with both index lists empty. -/
theorem tryNewSanitized_lookups_nonempty
    {enableStaticInstructionLimit enableInstructionAccountsLimit : Bool}
    {view : TransactionView true}
    (h : TransactionView.tryNewSanitized bytes enableStaticInstructionLimit
      enableInstructionAccountsLimit = .ok view)
    (hlen : bytes.length < 2 ^ 16) :
    ∃ tx : Transaction, tx.WellFormed ∧ tx.toBytes = bytes ∧ tx.Records view.frame ∧
      ∀ l ∈ tx.addressTableLookups, l.writableIndexes ≠ [] ∨ l.readonlyIndexes ≠ [] := by
  obtain ⟨frame, hframe, hsanitize, rfl⟩ := TransactionView.tryNewSanitized_eq_ok.mp h
  obtain ⟨tx, hwf, rfl, rfl⟩ := exists_transaction_of_tryNew hframe
  exact ⟨tx, hwf, rfl, tx.records_frame hwf.instructions_lt,
    Transaction.lookups_nonempty_of_sanitize hwf hlen hsanitize⟩

theorem tryNewSanitized_lookups_nonempty_smallTransaction :
    (TransactionView.tryNewSanitized smallTransaction.toBytes false false =
        .ok ⟨smallTransaction.toBytes, smallFrame⟩ ∧ smallTransaction.toBytes.length < 2 ^ 16) ∧
      ∃ tx : Transaction, tx.WellFormed ∧ tx.toBytes = smallTransaction.toBytes ∧
        tx.Records smallFrame ∧
        ∀ l ∈ tx.addressTableLookups, l.writableIndexes ≠ [] ∨ l.readonlyIndexes ≠ [] :=
  have hsanitized : TransactionView.tryNewSanitized smallTransaction.toBytes false false =
      .ok ⟨smallTransaction.toBytes, smallFrame⟩ :=
    TransactionView.tryNewSanitized_eq_ok.mpr
      ⟨_, Transaction.tryNew_toBytes smallTransaction_wellFormed, smallTransaction_sanitize, rfl⟩
  have hlen : smallTransaction.toBytes.length < 2 ^ 16 := by
    rw [length_toBytes_smallTransaction]
    decide
  ⟨⟨hsanitized, hlen⟩, tryNewSanitized_lookups_nonempty hsanitized hlen⟩

/-- Framing is faithful for every buffer shorter than `2 ^ 16` bytes, the packet bound the
source assumes: an accepted buffer is the bytes of a well-formed transaction whose parts the
frame records; the instructions and the lookups iterators yield its instructions and lookups, in
order and as many as the frame counts; the frame's totals are the numbers of the lookups'
indexes; and a sanitized view has no walked lookup with both index lists empty. -/
theorem framing_faithful_below_packet_bound :
    (∀ (bytes : List UInt8) (frame : TransactionFrame),
      TransactionFrame.tryNew bytes = .ok frame → bytes.length < 2 ^ 16 →
      ∃ tx : Transaction, tx.WellFormed ∧ tx.toBytes = bytes ∧ tx.Records frame ∧
        frame.instructionsIter.toList bytes = tx.instructions ∧
        tx.instructions.length = frame.instructions.numInstructions.toNat ∧
        frame.addressTableLookupIter.toList bytes = tx.addressTableLookups ∧
        tx.addressTableLookups.length = frame.addressTableLookup.numAddressTableLookups.toNat ∧
        totalWritable tx.addressTableLookups =
          frame.addressTableLookup.totalWritableLookupAccounts.toNat ∧
        totalReadonly tx.addressTableLookups =
          frame.addressTableLookup.totalReadonlyLookupAccounts.toNat) ∧
    ∀ (bytes : List UInt8) (f₁ f₂ : Bool) (view : TransactionView true),
      TransactionView.tryNewSanitized bytes f₁ f₂ = .ok view → bytes.length < 2 ^ 16 →
      ∃ tx : Transaction, tx.WellFormed ∧ tx.toBytes = bytes ∧ tx.Records view.frame ∧
        ∀ l ∈ tx.addressTableLookups, l.writableIndexes ≠ [] ∨ l.readonlyIndexes ≠ [] := by
  refine ⟨fun bytes frame h hlen => ?_, fun bytes f₁ f₂ view h hlen => ?_⟩
  · obtain ⟨tx, hwf, rfl, rfl⟩ := exists_transaction_of_tryNew h
    obtain ⟨hlookups, hcount, hw, hr⟩ := Transaction.lookups_frame hwf hlen
    exact ⟨tx, hwf, rfl, tx.records_frame hwf.instructions_lt,
      Transaction.instructionsIter_toList hwf, (Wire.toNat_ofNat_of_lt hwf.instructions_lt).symm,
      hlookups, hcount, hw, hr⟩
  · obtain ⟨frame, hframe, hsanitize, rfl⟩ := TransactionView.tryNewSanitized_eq_ok.mp h
    obtain ⟨tx, hwf, rfl, rfl⟩ := exists_transaction_of_tryNew hframe
    exact ⟨tx, hwf, rfl, tx.records_frame hwf.instructions_lt,
      Transaction.lookups_nonempty_of_sanitize hwf hlen hsanitize⟩

end Accepted

/-! ## Lookups past `2 ^ 16` bytes -/

/-- Data of `2 ^ 14 - 1` zero bytes. -/
def fillerData : List UInt8 := List.replicate (2 ^ 14 - 1) 0

theorem length_fillerData : fillerData.length = 2 ^ 14 - 1 := List.length_replicate

/-- Data of `2 ^ 14 - 1` bytes that carries the bytes of two `plantedLookup`s from its tenth byte
on. -/
def plantedData : List UInt8 :=
  List.replicate 9 0 ++
    ([plantedLookup, plantedLookup].flatMap SVMMessageAddressTableLookup.toBytes ++
      List.replicate (2 ^ 14 - 1 - 79) 0)

theorem length_plantedLookups :
    ([plantedLookup, plantedLookup].flatMap SVMMessageAddressTableLookup.toBytes).length = 79 - 9 := by
  simp [plantedLookup, Wire.compactLen]

theorem length_plantedData : plantedData.length = 2 ^ 14 - 1 := by
  rw [plantedData, List.length_append, List.length_append, length_plantedLookups,
    List.length_replicate, List.length_replicate]
  decide

/-- A `v0` transaction whose lookups start past `2 ^ 16` bytes, after four instructions of
`2 ^ 14 - 1` data bytes; its first lookup names no account. -/
def wrapTransaction : Transaction where
  signatures := [⟨0⟩]
  version := .v0
  numRequiredSignatures := 1
  numReadonlySignedAccounts := 0
  numReadonlyUnsignedAccounts := 0
  staticAccountKeys := [⟨0⟩, ⟨0⟩]
  recentBlockhash := ⟨0⟩
  instructions := dataInstruction plantedData :: List.replicate 3 (dataInstruction fillerData)
  addressTableLookups := [emptyLookup, namingLookup]

theorem wrapTransaction_instructions : wrapTransaction.instructions =
    [dataInstruction plantedData, dataInstruction fillerData, dataInstruction fillerData,
      dataInstruction fillerData] := rfl

theorem length_toBytes_dataInstruction {data : List UInt8} (h : data.length = 2 ^ 14 - 1) :
    (dataInstruction data).toBytes.length = 2 ^ 14 + 3 := by
  rw [SVMInstruction.length_toBytes, Wire.length_shortVec, Wire.length_shortVec,
    dataInstruction_accounts, dataInstruction_data, h]
  decide

theorem dataInstruction_wellSized {data : List UInt8} (h : data.length = 2 ^ 14 - 1) :
    (dataInstruction data).WellSized :=
  ⟨by show ([] : List UInt8).length < 2 ^ 14; decide,
    by show data.length < 2 ^ 14; rw [h]; decide⟩

theorem wrapTransaction_wellFormed : wrapTransaction.WellFormed where
  signatures_pos := by decide
  signatures_le := by decide
  legacy_required := by decide
  staticAccountKeys_pos := by decide
  staticAccountKeys_le := by decide
  instructions_lt := by decide
  instructions_wellSized := by
    rw [wrapTransaction_instructions]
    intro i hi
    simp only [List.mem_cons, List.not_mem_nil, or_false] at hi
    rcases hi with rfl | rfl | rfl | rfl
    · exact dataInstruction_wellSized length_plantedData
    all_goals exact dataInstruction_wellSized length_fillerData
  lookups := ⟨by decide, by decide, by decide, by decide, by decide⟩
  lookups_room := by
    show minSizedAtl * [emptyLookup, namingLookup].length ≤
      ([emptyLookup, namingLookup].flatMap SVMMessageAddressTableLookup.toBytes).length
    simp [emptyLookup, namingLookup, minSizedAtl, Wire.compactLen]

/-- The frame of `wrapTransaction`. -/
def wrapFrame : TransactionFrame := wrapTransaction.frame wrapTransaction_wellFormed.instructions_lt

theorem wrapTransaction_instructionsOffset : wrapTransaction.instructionsOffset = 167 := by
  rw [Transaction.instructionsOffset, Transaction.instructionsStart,
    Transaction.recentBlockhashOffset_eq, Transaction.staticAccountKeysStart_eq,
    Transaction.messageOffset_eq]
  decide

theorem wrapTransaction_lookupsStart : wrapTransaction.lookupsStart = 2 ^ 16 + 179 := by
  have hplanted := length_toBytes_dataInstruction length_plantedData
  have hfiller := length_toBytes_dataInstruction length_fillerData
  -- four instructions of `2 ^ 14 + 3` bytes each, from byte `167` on
  rw [Transaction.lookupsStart_eq, wrapTransaction_instructionsOffset, wrapTransaction_instructions,
    List.flatMap_cons, List.flatMap_cons, List.flatMap_cons, List.flatMap_cons, List.flatMap_nil,
    List.append_nil, List.length_append, List.length_append, List.length_append, hplanted, hfiller]
  decide

/-- The bytes of the two planted lookups stand `180` bytes in: ten bytes into the data of the
first instruction. -/
theorem plantedLookups_prefix_drop :
    [plantedLookup, plantedLookup].flatMap SVMMessageAddressTableLookup.toBytes <+:
      wrapTransaction.toBytes.drop 180 := by
  obtain ⟨-, -, -, -, hsection, -⟩ :=
    (Transaction.toBytes_prefix_iff wrapTransaction).mp (List.prefix_refl _)
  rw [Transaction.instructionsSection] at hsection
  obtain ⟨-, hinstrs⟩ := prefix_drop_append.mp hsection
  rw [Wire.length_encodeCompactU16, ← Transaction.instructionsOffset,
    wrapTransaction_instructionsOffset, wrapTransaction_instructions, List.flatMap_cons] at hinstrs
  -- the first instruction: its program index, no accounts, then its data
  obtain ⟨hfirst, -⟩ := prefix_drop_append.mp hinstrs
  obtain ⟨-, hfirst⟩ := prefix_drop_cons.mp hfirst
  obtain ⟨-, hdata⟩ := prefix_drop_append.mp hfirst
  rw [Wire.shortVec] at hdata
  obtain ⟨-, hdata⟩ := prefix_drop_append.mp hdata
  rw [dataInstruction_accounts, dataInstruction_data, length_plantedData, plantedData] at hdata
  obtain ⟨-, hdata⟩ := prefix_drop_append.mp hdata
  obtain ⟨hplanted, -⟩ := prefix_drop_append.mp hdata
  rwa [show 167 + 1 + (Wire.shortVec ([] : List UInt8)).length +
      (Wire.encodeCompactU16 (2 ^ 14 - 1)).length + (List.replicate 9 (0 : UInt8)).length = 180
    by decide] at hplanted

/-- The lookups iterator of `wrapTransaction`'s frame starts `2 ^ 16` bytes before its lookups,
at the planted ones, and yields those. -/
theorem wrapFrame_addressTableLookupIter :
    wrapFrame.addressTableLookupIter.toList wrapTransaction.toBytes =
      [plantedLookup, plantedLookup] := by
  have hoffset := Transaction.addressTableLookupIter_offset wrapTransaction_wellFormed rfl
  rw [Transaction.addressTableLookupsOffset, wrapTransaction_lookupsStart] at hoffset
  refine AddressTableLookupIterator.toList_eq_of_readsBack ⟨by decide, by decide, ?_⟩
  rw [wrapFrame, hoffset]
  exact plantedLookups_prefix_drop

/-- The view of `wrapTransaction` passes `sanitize`: the check of the lookups sees the planted
ones, which name an account each. -/
theorem wrapTransaction_sanitize :
    sanitize ⟨wrapTransaction.toBytes, wrapFrame⟩ false false = .ok () := by
  refine sanitize_eq_ok.mpr ⟨sanitizeSignatures_eq_ok.mpr ⟨by decide, by decide⟩,
    sanitizeAccountAccess_eq_ok.mpr ⟨by decide, by decide, by decide⟩,
    sanitizeInstructions_eq_ok.mpr ⟨by decide, ?_⟩, sanitizeAddressTableLookups_eq_ok.mpr ?_⟩
  · intro i hi
    change i ∈ wrapFrame.instructionsIter.toList wrapTransaction.toBytes at hi
    rw [wrapFrame, Transaction.instructionsIter_toList wrapTransaction_wellFormed,
      wrapTransaction_instructions] at hi
    simp only [List.mem_cons, List.not_mem_nil, or_false] at hi
    rcases hi with rfl | rfl | rfl | rfl <;> exact sanitizeInstruction_dataInstruction _
  · change ∀ l ∈ wrapFrame.addressTableLookupIter.toList wrapTransaction.toBytes, _
    rw [wrapFrame_addressTableLookupIter]
    decide

theorem addressTableLookupIter_wraps :
    TransactionView.tryNewSanitized wrapTransaction.toBytes false false =
        .ok ⟨wrapTransaction.toBytes, wrapFrame⟩ ∧
      wrapTransaction.WellFormed ∧ wrapTransaction.Records wrapFrame ∧
      wrapTransaction.addressTableLookupsOffset = 2 ^ 16 + 180 ∧
      wrapFrame.addressTableLookupIter.toList wrapTransaction.toBytes =
        [plantedLookup, plantedLookup] ∧
      wrapTransaction.addressTableLookups = [emptyLookup, namingLookup] ∧
      emptyLookup.writableIndexes = [] ∧ emptyLookup.readonlyIndexes = [] ∧
      totalWritable (wrapFrame.addressTableLookupIter.toList wrapTransaction.toBytes) ≠
        wrapFrame.addressTableLookup.totalWritableLookupAccounts.toNat := by
  refine ⟨TransactionView.tryNewSanitized_eq_ok.mpr
      ⟨_, Transaction.tryNew_toBytes wrapTransaction_wellFormed, wrapTransaction_sanitize, rfl⟩,
    wrapTransaction_wellFormed, wrapTransaction.records_frame _,
    by rw [Transaction.addressTableLookupsOffset, wrapTransaction_lookupsStart],
    wrapFrame_addressTableLookupIter, rfl, rfl, rfl, ?_⟩
  -- the planted lookups name two writable accounts, the walked ones one
  rw [wrapFrame_addressTableLookupIter]
  decide

end TRv1.TransactionView
