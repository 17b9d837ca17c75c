import TRv1.TransactionView.Iterators
import TRv1.Lib.Table

/-!
# Views with their lookups resolved

`resolved_transaction_view.rs`, with the accessors of `transaction_view.rs` it reads. A
sanitized view is handed the addresses its lookups resolved to. `ResolvedTransactionView::try_new`
checks that they are as many as the lookups name and caches, for each of the at most 256 account
keys, whether the transaction may write it. `cache_is_writable` fills that cache in two loops:
the first marks every key the message asks to write that is not reserved, the second takes the
mark off every program an instruction invokes, unless the upgradeable loader is among the keys.
Whether it is, is looked up the first time a marked program is met, and kept.

The account keys are those `AccountKeys::iter` of `solana-message` yields, a crate outside this
repository. The model takes that iteration as a parameter, and its results assume of it only
`YieldsStaticThenLoaded`: the static keys, then the loaded writable and the loaded readonly
addresses.

## What this module delivers

- `tryNewUnsanitized_readsBack`: the accessors of a view that `try_new_unsanitized` accepts read
  the transaction whose bytes it holds: its signatures, header, static keys, recent blockhash,
  instructions and message.
- `isWritable_iff`: for a sanitized view and resolved addresses that `try_new` accepts, and an
  iteration over the keys in that order, an index is writable exactly when it names a key, the
  message asks to write it (`RequestsWrite`), the key is not reserved, and, if an instruction
  invokes it, the upgradeable loader is among the keys.
  The two loops are read with the rules of `Table`, the lazily looked-up flag with `Table.Memo`.
- `card_writable_le`: a resolved view never has more writable accounts than the write locks it
  reports.
-/

set_option autoImplicit false
-- the crate and its main type share the name `TransactionView`
set_option linter.dupNamespace false

namespace TRv1.TransactionView

/-! ## The rest of the view's accessors -/

namespace TransactionView

variable {sanitized : Bool}

def version (view : TransactionView sanitized) : TransactionVersion :=
  view.frame.messageHeader.version

/-- `signatures`: `num_signatures` signatures of 64 bytes from the position the frame recorded. -/
def signatures (view : TransactionView sanitized) : List Signature :=
  (ListAt.chunksAt 64 view.data view.frame.signature.offset.toNat view.numSignatures.toNat).map
    Signature.ofBytes

/-- `static_account_keys`: `num_static_accounts` keys of 32 bytes from the recorded position. -/
def staticAccountKeys (view : TransactionView sanitized) : List Pubkey :=
  (ListAt.chunksAt 32 view.data view.frame.staticAccountKeys.offset.toNat
    view.numStaticAccountKeys.toNat).map Pubkey.ofBytes

/-- `recent_blockhash`: the 32 bytes at the recorded position. -/
def recentBlockhash (view : TransactionView sanitized) : Hash :=
  Hash.ofBytes ((view.data.drop view.frame.recentBlockhashOffset.toNat).take 32)

/-- `message_data`: the bytes from the message header on. -/
def messageData (view : TransactionView sanitized) : List UInt8 :=
  view.data.drop view.frame.messageHeader.offset.toNat

/-- `num_static_unsigned_static_accounts`, in wrapping `u8`. -/
def numStaticUnsignedStaticAccounts (view : TransactionView true) : UInt8 :=
  view.numStaticAccountKeys - view.numRequiredSignatures

/-- `num_writable_unsigned_static_accounts`, in wrapping `u8`. -/
def numWritableUnsignedStaticAccounts (view : TransactionView true) : UInt8 :=
  view.numStaticUnsignedStaticAccounts - view.numReadonlyUnsignedStaticAccounts

/-- `num_writable_signed_static_accounts`, in wrapping `u8`. -/
def numWritableSignedStaticAccounts (view : TransactionView true) : UInt8 :=
  view.numRequiredSignatures - view.numReadonlySignedStaticAccounts

/-- `num_requested_write_locks`: the static keys less the readonly ones in wrapping `u8`, and the
writable loaded addresses added in wrapping `u16`. -/
def numRequestedWriteLocks (view : TransactionView true) : UInt64 :=
  ((view.numStaticAccountKeys - view.numReadonlySignedStaticAccounts -
    view.numReadonlyUnsignedStaticAccounts).toUInt16 + view.totalWritableLookupAccounts).toUInt64

end TransactionView

/-! ## Resolving the lookups -/

/-- `bpf_loader_upgradeable::ID`, `BPFLoaderUpgradeab1e11111111111111111111111`. -/
def bpfLoaderUpgradeableId : Pubkey :=
  ⟨1203157751113444292085578490895711631870746999416992000355168191203933945856⟩

/-- `LoadedAddresses`: the addresses the lookups of a message resolved to. -/
structure LoadedAddresses where
  writable : List Pubkey
  readonly : List Pubkey
  deriving DecidableEq, Repr

/-- What the results below assume of `AccountKeys::new(static_keys, dynamic_keys).iter()`, which
`solana-message` defines and this module takes as the parameter `accountKeysIter`: it yields the
static keys, then the loaded writable addresses, then the loaded readonly ones. -/
def YieldsStaticThenLoaded (accountKeysIter : List Pubkey → Option LoadedAddresses → List Pubkey) :
    Prop :=
  ∀ staticKeys dynamicKeys, accountKeysIter staticKeys dynamicKeys = staticKeys ++
    (dynamicKeys.map LoadedAddresses.writable).getD [] ++
      (dynamicKeys.map LoadedAddresses.readonly).getD []

section Resolve

variable (accountKeysIter : List Pubkey → Option LoadedAddresses → List Pubkey)

/-- The `is_requested_write` block of `cache_is_writable`: a loaded address is asked to be written
below the writable lookup accounts, an unsigned static key below the writable unsigned ones, a
signed key below the writable signed ones. -/
def isRequestedWrite (view : TransactionView true) (index : Nat) : Bool :=
  let numStaticAccountKeys := view.numStaticAccountKeys.toNat
  let numWritableLookupAccounts := view.totalWritableLookupAccounts.toNat
  let numSignedAccounts := view.numRequiredSignatures.toNat
  let numWritableUnsignedStaticAccounts := view.numWritableUnsignedStaticAccounts.toNat
  let numWritableSignedStaticAccounts := view.numWritableSignedStaticAccounts.toNat
  if index ≥ numStaticAccountKeys then
    index - numStaticAccountKeys < numWritableLookupAccounts
  else if index ≥ numSignedAccounts then
    index - numSignedAccounts < numWritableUnsignedStaticAccounts
  else index < numWritableSignedStaticAccounts

/-- What the first loop of `cache_is_writable` writes for the key at `index`: a reserved key
cannot be writable. -/
def writableEntry (view : TransactionView true) (reservedAccountKeys : Finset Pubkey)
    (index : Nat) (key : Pubkey) : Bool :=
  isRequestedWrite view index && !decide (key ∈ reservedAccountKeys)

/-- The body of the second loop of `cache_is_writable`, at one instruction: a writable program id
stays writable only if the upgradeable loader is among the keys, which is looked up the first time
it is needed and kept in `is_upgradable_loader_present`. -/
def demoteProgramId (accountKeys : List Pubkey) (state : List Bool × Option Bool)
    (ix : SVMInstruction) : List Bool × Option Bool :=
  let programIdIndex := ix.programIdIndex.toNat
  if state.1.getD programIdIndex false then
    let present := Table.getOrInsertWith state.2 fun _ =>
      accountKeys.any (· == bpfLoaderUpgradeableId)
    if !present.1 then (state.1.set programIdIndex false, present.2) else (state.1, present.2)
  else state

/-- `cache_is_writable`. A key past the 256th would index out of the array, and a sanitized view
that `try_new` accepts has none (`length_accountKeys_le`). -/
def cacheIsWritable (view : TransactionView true) (resolvedAddresses : Option LoadedAddresses)
    (reservedAccountKeys : Finset Pubkey) : List Bool :=
  let accountKeys := accountKeysIter view.staticAccountKeys resolvedAddresses
  let isWritableCache := accountKeys.zipIdx.foldl
    (fun cache p => cache.set p.2 (writableEntry view reservedAccountKeys p.2 p.1))
    (List.replicate 256 false)
  (view.instructions.foldl (demoteProgramId accountKeys) (isWritableCache, none)).1

theorem length_demoteProgramId (accountKeys : List Pubkey) (state : List Bool × Option Bool)
    (ix : SVMInstruction) : (demoteProgramId accountKeys state ix).1.length = state.1.length := by
  unfold demoteProgramId
  dsimp only
  split
  · split
    · exact List.length_set
    · rfl
  · rfl

theorem length_cacheIsWritable (view : TransactionView true)
    (resolvedAddresses : Option LoadedAddresses) (reservedAccountKeys : Finset Pubkey) :
    (cacheIsWritable accountKeysIter view resolvedAddresses reservedAccountKeys).length = 256 := by
  -- the second loop keeps the length of the table the first one leaves
  have hloop : ∀ (ixs : List SVMInstruction) (state : List Bool × Option Bool),
      (ixs.foldl (demoteProgramId (accountKeysIter view.staticAccountKeys resolvedAddresses))
        state).1.length = state.1.length := by
    intro ixs
    induction ixs with
    | nil => intro _; rfl
    | cons ix ixs ih =>
      intro state
      rw [List.foldl_cons, ih, length_demoteProgramId]
  unfold cacheIsWritable
  dsimp only
  rw [hloop, Table.length_foldl_set_zipIdx, List.length_replicate]

/-- `ResolvedTransactionView`: a sanitized view, the addresses its lookups resolved to, and the
cache of which keys are writable, an array of 256 flags. -/
structure ResolvedTransactionView where
  view : TransactionView true
  resolvedAddresses : Option LoadedAddresses
  writableCache : List Bool
  length_writableCache : writableCache.length = 256

namespace ResolvedTransactionView

/-- `ResolvedTransactionView::try_new`: a `v0` message must have resolved addresses, even if
empty, and they must be as many as its lookups name. -/
def tryNew (view : TransactionView true) (resolvedAddresses : Option LoadedAddresses)
    (reservedAccountKeys : Finset Pubkey) :
    Except TransactionViewError ResolvedTransactionView := do
  if view.version = .v0 ∧ resolvedAddresses.isNone then
    throw .addressLookupMismatch
  match resolvedAddresses with
  | some loadedAddresses =>
    if loadedAddresses.writable.length ≠ view.totalWritableLookupAccounts.toNat ∨
        loadedAddresses.readonly.length ≠ view.totalReadonlyLookupAccounts.toNat then
      throw .addressLookupMismatch
  | none =>
    if view.totalWritableLookupAccounts ≠ 0 ∨ view.totalReadonlyLookupAccounts ≠ 0 then
      throw .addressLookupMismatch
  pure { view, resolvedAddresses,
         writableCache := cacheIsWritable accountKeysIter view resolvedAddresses reservedAccountKeys,
         length_writableCache :=
           length_cacheIsWritable accountKeysIter view resolvedAddresses reservedAccountKeys }

/-- `account_keys`: the keys `AccountKeys::iter` yields. -/
def accountKeys (r : ResolvedTransactionView) : List Pubkey :=
  accountKeysIter r.view.staticAccountKeys r.resolvedAddresses

/-- `is_writable`: the cached flag, and `false` past the cache. -/
def isWritable (r : ResolvedTransactionView) (index : Nat) : Bool :=
  r.writableCache.getD index false

/-- `is_signer`. -/
def isSigner (r : ResolvedTransactionView) (index : Nat) : Bool :=
  index < r.view.numRequiredSignatures.toNat

/-- `is_invoked`: whether an instruction's program is the key at `keyIndex`; an index that is not
a `u8` names no program. -/
def isInvoked (r : ResolvedTransactionView) (keyIndex : Nat) : Bool :=
  if keyIndex < 256 then r.view.instructions.any (·.programIdIndex == UInt8.ofNat keyIndex)
  else false

/-- `num_write_locks`. -/
def numWriteLocks (r : ResolvedTransactionView) : UInt64 := r.view.numRequestedWriteLocks

end ResolvedTransactionView

end Resolve

/-! ## What the accessors read -/

namespace Transaction

variable {tx : Transaction} {sanitized : Bool}

/-- The positions the frame records before the instructions fit a `u16`. -/
theorem offsets_lt (hwf : tx.WellFormed) :
    tx.messageOffset < 2 ^ 16 ∧ tx.staticAccountKeysStart + 1 < 2 ^ 16 ∧
      tx.recentBlockhashOffset < 2 ^ 16 := by
  have hlt := instructionsOffset_lt hwf
  have hkeys := recentBlockhashOffset_eq tx
  rw [instructionsOffset, instructionsStart] at hlt
  rw [staticAccountKeysStart_eq] at hkeys ⊢
  omega

theorem signatures_frame (hwf : tx.WellFormed) :
    (⟨tx.toBytes, tx.frame hwf.instructions_lt⟩ : TransactionView sanitized).signatures =
      tx.signatures := by
  obtain ⟨hsection, _⟩ := (toBytes_prefix_iff tx).mp (List.prefix_refl _)
  rw [signaturesSection, ← List.drop_zero (l := tx.toBytes), ListAt.prefix_drop_cons] at hsection
  have hcount : (UInt8.ofNat tx.signatures.length).toNat = tx.signatures.length := by
    have hle := hwf.signatures_le
    have hmax : maxSignaturesPerPacket.toNat = 12 := by decide
    exact UInt8.toNat_ofNat_of_lt' (by rw [UInt8.size]; omega)
  rw [Nat.zero_add] at hsection
  show (ListAt.chunksAt 64 tx.toBytes (1 : UInt16).toNat
    (UInt8.ofNat tx.signatures.length).toNat).map Signature.ofBytes = _
  rw [hcount, show (1 : UInt16).toNat = 1 from rfl,
    ListAt.chunksAt_of_prefix Signature.length_toBytes hsection.2, List.map_map]
  exact List.map_id'' Signature.ofBytes_toBytes _

theorem staticAccountKeys_frame (hwf : tx.WellFormed) :
    (⟨tx.toBytes, tx.frame hwf.instructions_lt⟩ : TransactionView sanitized).staticAccountKeys =
      tx.staticAccountKeys := by
  obtain ⟨_, _, hsection, _⟩ := (toBytes_prefix_iff tx).mp (List.prefix_refl _)
  rw [staticAccountKeysSection, ListAt.prefix_drop_cons] at hsection
  have hcount : (UInt8.ofNat tx.staticAccountKeys.length).toNat = tx.staticAccountKeys.length := by
    have hle := hwf.staticAccountKeys_le
    have hmax : maxStaticAccountsPerPacket.toNat = 38 := by decide
    exact UInt8.toNat_ofNat_of_lt' (by rw [UInt8.size]; omega)
  have hoffset : (UInt16.ofNat (tx.staticAccountKeysStart + 1)).toNat =
      tx.staticAccountKeysStart + 1 :=
    UInt16.toNat_ofNat_of_lt' (offsets_lt hwf).2.1
  show (ListAt.chunksAt 32 tx.toBytes (UInt16.ofNat (tx.staticAccountKeysStart + 1)).toNat
    (UInt8.ofNat tx.staticAccountKeys.length).toNat).map Pubkey.ofBytes = _
  rw [hcount, hoffset, ListAt.chunksAt_of_prefix Pubkey.length_toBytes hsection.2, List.map_map]
  exact List.map_id'' Pubkey.ofBytes_toBytes _

theorem recentBlockhash_frame (hwf : tx.WellFormed) :
    (⟨tx.toBytes, tx.frame hwf.instructions_lt⟩ : TransactionView sanitized).recentBlockhash =
      tx.recentBlockhash := by
  obtain ⟨_, _, _, hsection, _⟩ := (toBytes_prefix_iff tx).mp (List.prefix_refl _)
  have hbytes := (ListAt.prefix_drop_iff_take.mp ⟨hsection, Hash.length_toBytes _⟩).2
  show Hash.ofBytes ((tx.toBytes.drop (UInt16.ofNat tx.recentBlockhashOffset).toNat).take 32) = _
  rw [UInt16.toNat_ofNat_of_lt' (offsets_lt hwf).2.2, ← hbytes, Hash.ofBytes_toBytes]

theorem messageData_frame (hwf : tx.WellFormed) :
    (⟨tx.toBytes, tx.frame hwf.instructions_lt⟩ : TransactionView sanitized).messageData =
      tx.toBytes.drop tx.messageOffset := by
  show tx.toBytes.drop (UInt16.ofNat tx.messageOffset).toNat = _
  rw [UInt16.toNat_ofNat_of_lt' (offsets_lt hwf).1]

end Transaction

/-- For every buffer `try_new_unsanitized` accepts, the view's accessors read back the
transaction whose bytes the buffer is: its signatures, version and header counts, static keys,
recent blockhash and instructions, and the message from the header on. -/
theorem tryNewUnsanitized_readsBack {data : List UInt8} {view : TransactionView false}
    (h : TransactionView.tryNewUnsanitized data = .ok view) :
    ∃ tx : Transaction, tx.WellFormed ∧ tx.toBytes = data ∧
      view.signatures = tx.signatures ∧ view.version = tx.version ∧
      view.numRequiredSignatures = tx.numRequiredSignatures ∧
      view.numReadonlySignedStaticAccounts = tx.numReadonlySignedAccounts ∧
      view.numReadonlyUnsignedStaticAccounts = tx.numReadonlyUnsignedAccounts ∧
      view.staticAccountKeys = tx.staticAccountKeys ∧
      view.recentBlockhash = tx.recentBlockhash ∧
      view.instructions = tx.instructions ∧ view.messageData = data.drop tx.messageOffset := by
  obtain ⟨frame, hframe, hview⟩ := StateExcept.except_bind_eq_ok h
  cases hview
  obtain ⟨tx, hwf, rfl, rfl⟩ := exists_transaction_of_tryNew hframe
  exact ⟨tx, hwf, rfl, Transaction.signatures_frame hwf, rfl, rfl, rfl, rfl,
    Transaction.staticAccountKeys_frame hwf, Transaction.recentBlockhash_frame hwf,
    Transaction.instructionsIter_toList hwf, Transaction.messageData_frame hwf⟩

/-- The unsanitized view of `smallTransaction`. -/
def smallUnsanitizedView : TransactionView false := ⟨smallTransaction.toBytes, smallFrame⟩

theorem tryNewUnsanitized_readsBack_smallTransaction :
    TransactionView.tryNewUnsanitized smallTransaction.toBytes = .ok smallUnsanitizedView ∧
      ∃ tx : Transaction, tx.WellFormed ∧ tx.toBytes = smallTransaction.toBytes ∧
        smallUnsanitizedView.signatures = tx.signatures ∧
        smallUnsanitizedView.version = tx.version ∧
        smallUnsanitizedView.numRequiredSignatures = tx.numRequiredSignatures ∧
        smallUnsanitizedView.numReadonlySignedStaticAccounts = tx.numReadonlySignedAccounts ∧
        smallUnsanitizedView.numReadonlyUnsignedStaticAccounts = tx.numReadonlyUnsignedAccounts ∧
        smallUnsanitizedView.staticAccountKeys = tx.staticAccountKeys ∧
        smallUnsanitizedView.recentBlockhash = tx.recentBlockhash ∧
        smallUnsanitizedView.instructions = tx.instructions ∧
        smallUnsanitizedView.messageData = smallTransaction.toBytes.drop tx.messageOffset := by
  have h : TransactionView.tryNewUnsanitized smallTransaction.toBytes =
      .ok smallUnsanitizedView := by
    rw [TransactionView.tryNewUnsanitized, Transaction.tryNew_toBytes smallTransaction_wellFormed]
    rfl
  exact ⟨h, tryNewUnsanitized_readsBack h⟩

/-! ## The counts a sanitized view holds -/

namespace TransactionView

@[simp] theorem length_staticAccountKeys {sanitized : Bool} (view : TransactionView sanitized) :
    view.staticAccountKeys.length = view.numStaticAccountKeys.toNat := by
  rw [staticAccountKeys, List.length_map, ListAt.length_chunksAt]

/-- What `sanitize` ensures of the counts `cache_is_writable` reads: the signed keys are static
keys, not all of them readonly; the readonly unsigned keys are unsigned static keys; and the
static and looked-up accounts number at most 256. -/
structure CountsSane (view : TransactionView true) : Prop where
  required_le : view.numRequiredSignatures.toNat ≤ view.numStaticAccountKeys.toNat
  readonlySigned_lt :
    view.numReadonlySignedStaticAccounts.toNat < view.numRequiredSignatures.toNat
  readonlyUnsigned_le : view.numReadonlyUnsignedStaticAccounts.toNat ≤
    view.numStaticAccountKeys.toNat - view.numRequiredSignatures.toNat
  total_le : view.numStaticAccountKeys.toNat + view.totalWritableLookupAccounts.toNat +
    view.totalReadonlyLookupAccounts.toNat ≤ 256

theorem countsSane_of_tryNewSanitized {data : List UInt8} {a b : Bool}
    {view : TransactionView true} (h : TransactionView.tryNewSanitized data a b = .ok view) :
    view.CountsSane := by
  obtain ⟨frame, _, hsanitize, rfl⟩ := TransactionView.tryNewSanitized_eq_ok.mp h
  obtain ⟨hsig, hacc, _, _⟩ := sanitize_eq_ok.mp hsanitize
  obtain ⟨hnum, hle⟩ := sanitizeSignatures_eq_ok.mp hsig
  obtain ⟨hunsigned, hsigned, htotal⟩ := sanitizeAccountAccess_eq_ok.mp hacc
  rw [hnum] at hle
  -- the `u8` difference does not wrap, and the `u16` sums do not saturate
  rw [UInt8.le_iff_toNat_le, UInt8.toNat_sub_of_le _ _ hle] at hunsigned
  rw [UInt16.le_iff_toNat_le, totalNumberOfAccounts, RustInt.saturatingAddU16_toNat,
    RustInt.saturatingAddU16_toNat, UInt8.toNat_toUInt16,
    show (256 : UInt16).toNat = 256 from rfl] at htotal
  refine ⟨UInt8.le_iff_toNat_le.mp hle, UInt8.lt_iff_toNat_lt.mp hsigned, hunsigned, ?_⟩
  unfold numStaticAccountKeys totalWritableLookupAccounts totalReadonlyLookupAccounts
    at htotal ⊢
  omega

end TransactionView

/-- The accounts a message asks to write, by their index among its account keys: the signed
keys but the readonly signed ones, the unsigned static keys but the readonly unsigned ones, and
the writable loaded addresses. -/
def RequestsWrite (view : TransactionView true) (index : Nat) : Prop :=
  index < view.numRequiredSignatures.toNat - view.numReadonlySignedStaticAccounts.toNat ∨
    (view.numRequiredSignatures.toNat ≤ index ∧
      index < view.numStaticAccountKeys.toNat - view.numReadonlyUnsignedStaticAccounts.toNat) ∨
    (view.numStaticAccountKeys.toNat ≤ index ∧
      index < view.numStaticAccountKeys.toNat + view.totalWritableLookupAccounts.toNat)

section Sane

variable {view : TransactionView true} (hc : view.CountsSane)
include hc

/-- On a sanitized view the `u8` differences `is_requested_write` compares with do not wrap, and
it asks for the writes `RequestsWrite` names. -/
theorem isRequestedWrite_iff (index : Nat) :
    isRequestedWrite view index = true ↔ RequestsWrite view index := by
  have hreq := hc.required_le
  have hsigned := hc.readonlySigned_lt
  have hunsigned := hc.readonlyUnsigned_le
  have hstatic : view.numRequiredSignatures ≤ view.numStaticAccountKeys :=
    UInt8.le_iff_toNat_le.mpr hreq
  have hwu : view.numWritableUnsignedStaticAccounts.toNat = view.numStaticAccountKeys.toNat -
      view.numRequiredSignatures.toNat - view.numReadonlyUnsignedStaticAccounts.toNat := by
    have hle : view.numReadonlyUnsignedStaticAccounts ≤ view.numStaticUnsignedStaticAccounts := by
      rw [UInt8.le_iff_toNat_le, TransactionView.numStaticUnsignedStaticAccounts,
        UInt8.toNat_sub_of_le _ _ hstatic]
      exact hunsigned
    rw [TransactionView.numWritableUnsignedStaticAccounts, UInt8.toNat_sub_of_le _ _ hle,
      TransactionView.numStaticUnsignedStaticAccounts, UInt8.toNat_sub_of_le _ _ hstatic]
  have hws : view.numWritableSignedStaticAccounts.toNat =
      view.numRequiredSignatures.toNat - view.numReadonlySignedStaticAccounts.toNat := by
    rw [TransactionView.numWritableSignedStaticAccounts,
      UInt8.toNat_sub_of_le _ _ (UInt8.le_iff_toNat_le.mpr (by omega))]
  unfold isRequestedWrite RequestsWrite
  dsimp only
  rw [hwu, hws]
  split_ifs <;> simp only [decide_eq_true_eq] <;> omega

/-- On a sanitized view, `num_requested_write_locks` does not wrap: it counts the static keys but
the readonly ones, and the writable loaded addresses. -/
theorem numRequestedWriteLocks_toNat :
    view.numRequestedWriteLocks.toNat = view.numStaticAccountKeys.toNat -
      view.numReadonlySignedStaticAccounts.toNat - view.numReadonlyUnsignedStaticAccounts.toNat +
      view.totalWritableLookupAccounts.toNat := by
  have hreq := hc.required_le
  have hsigned := hc.readonlySigned_lt
  have hunsigned := hc.readonlyUnsigned_le
  have htotal := hc.total_le
  have hs : view.numReadonlySignedStaticAccounts ≤ view.numStaticAccountKeys :=
    UInt8.le_iff_toNat_le.mpr (by omega)
  have hu : view.numReadonlyUnsignedStaticAccounts ≤
      view.numStaticAccountKeys - view.numReadonlySignedStaticAccounts := by
    rw [UInt8.le_iff_toNat_le, UInt8.toNat_sub_of_le _ _ hs]
    omega
  rw [TransactionView.numRequestedWriteLocks, UInt16.toNat_toUInt64, UInt16.toNat_add,
    UInt8.toNat_toUInt16, UInt8.toNat_sub_of_le _ _ hu, UInt8.toNat_sub_of_le _ _ hs,
    Nat.mod_eq_of_lt (by omega)]

end Sane

/-! ## What the cache holds -/

section Cache

variable {accountKeysIter : List Pubkey → Option LoadedAddresses → List Pubkey}

theorem YieldsStaticThenLoaded.length_eq (hiter : YieldsStaticThenLoaded accountKeysIter)
    (staticKeys : List Pubkey) (la : Option LoadedAddresses) :
    (accountKeysIter staticKeys la).length = staticKeys.length +
      (la.map fun l => l.writable.length).getD 0 + (la.map fun l => l.readonly.length).getD 0 := by
  rw [hiter, List.length_append, List.length_append]
  cases la <;> rfl

/-- One pass of the second loop keeps its cache of whether the loader is among the keys, and
clears at most the slot of the instruction's program, and only when the loader is not. -/
theorem demoteProgramId_spec (accountKeys : List Pubkey) (state : List Bool × Option Bool)
    (ix : SVMInstruction)
    (h : Table.Memo state.2 (accountKeys.any (· == bpfLoaderUpgradeableId))) :
    Table.Memo (demoteProgramId accountKeys state ix).2
        (accountKeys.any (· == bpfLoaderUpgradeableId)) ∧
      ∀ i, (demoteProgramId accountKeys state ix).1.getD i false =
        (state.1.getD i false &&
          (i != ix.programIdIndex.toNat || accountKeys.any (· == bpfLoaderUpgradeableId))) := by
  unfold demoteProgramId
  dsimp only
  by_cases hset : state.1.getD ix.programIdIndex.toNat false = true
  · obtain ⟨hread, hmemo⟩ :=
      Table.getOrInsertWith_of_memo (f := fun _ => accountKeys.any (· == bpfLoaderUpgradeableId)) h
    rw [if_pos hset, hread]
    cases hpresent : accountKeys.any (· == bpfLoaderUpgradeableId) with
    | false =>
      -- the loader is not among the keys: the program's slot is cleared
      rw [hpresent] at hmemo
      refine ⟨hmemo, fun i => ?_⟩
      have hlt : ix.programIdIndex.toNat < state.1.length := by
        by_contra hge
        rw [List.getD_eq_getElem?_getD, List.getElem?_eq_none (by omega)] at hset
        cases hset
      by_cases hi : i = ix.programIdIndex.toNat
      · subst hi
        simp [List.getD_eq_getElem?_getD, List.getElem?_set_self hlt]
      · simp [List.getD_eq_getElem?_getD, List.getElem?_set_ne (Ne.symm hi), hi]
    | true =>
      rw [hpresent] at hmemo
      exact ⟨hmemo, fun i => by simp⟩
  · rw [if_neg hset]
    refine ⟨h, fun i => ?_⟩
    by_cases hi : i = ix.programIdIndex.toNat
    · subst hi
      rw [Bool.eq_false_iff.mpr hset, Bool.false_and]
    · simp [hi]

/-- The cache `cache_is_writable` builds over at most 256 keys: what the first loop wrote for the
key at `index`, kept unless an instruction invokes `index` and the upgradeable loader is not among
the keys. -/
theorem getD_cacheIsWritable {view : TransactionView true} {la : Option LoadedAddresses}
    {reserved : Finset Pubkey} (hkeys : (accountKeysIter view.staticAccountKeys la).length ≤ 256)
    (index : Nat) :
    (cacheIsWritable accountKeysIter view la reserved).getD index false =
      (((accountKeysIter view.staticAccountKeys la)[index]?.map
          (writableEntry view reserved index)).getD false &&
        view.instructions.all fun ix => index != ix.programIdIndex.toNat ||
          (accountKeysIter view.staticAccountKeys la).any (· == bpfLoaderUpgradeableId)) := by
  unfold cacheIsWritable
  dsimp only
  rw [Table.getD_foldl_clear (demoteProgramId _) (fun ix => ix.programIdIndex.toNat)
      (fun _ => (accountKeysIter view.staticAccountKeys la).any (· == bpfLoaderUpgradeableId))
      (fun memo => Table.Memo memo
        ((accountKeysIter view.staticAccountKeys la).any (· == bpfLoaderUpgradeableId)))
      (fun state ix h => demoteProgramId_spec _ state ix h) view.instructions _
      (Table.memo_none _) index,
    Table.getD_foldl_set_zipIdx_replicate _ _ hkeys]

end Cache

/-! ## A resolved view of the small transaction -/

/-- The sanitized view of `smallTransaction`. -/
def smallView : TransactionView true := ⟨smallTransaction.toBytes, smallFrame⟩

theorem tryNewSanitized_smallTransaction :
    TransactionView.tryNewSanitized smallTransaction.toBytes false false = .ok smallView :=
  TransactionView.tryNewSanitized_eq_ok.mpr ⟨smallFrame,
    Transaction.tryNew_toBytes smallTransaction_wellFormed, smallTransaction_sanitize, rfl⟩

/-- The addresses the lookup of `smallTransaction` resolves to: one writable, one readonly. -/
def smallLoadedAddresses : LoadedAddresses := ⟨[⟨5⟩], [⟨6⟩]⟩

/-- An iteration over the account keys in the order `YieldsStaticThenLoaded` asks for, to run the
resolved views on. -/
def staticThenLoaded (staticKeys : List Pubkey) (dynamicKeys : Option LoadedAddresses) :
    List Pubkey :=
  staticKeys ++ (dynamicKeys.map LoadedAddresses.writable).getD [] ++
    (dynamicKeys.map LoadedAddresses.readonly).getD []

theorem yieldsStaticThenLoaded_staticThenLoaded : YieldsStaticThenLoaded staticThenLoaded :=
  fun _ _ => rfl

/-- The resolved view of `smallTransaction`, with no reserved keys. -/
def smallResolved : ResolvedTransactionView :=
  ⟨smallView, some smallLoadedAddresses,
    cacheIsWritable staticThenLoaded smallView (some smallLoadedAddresses) ∅,
    length_cacheIsWritable _ _ _ _⟩

theorem tryNew_smallView :
    ResolvedTransactionView.tryNew staticThenLoaded smallView (some smallLoadedAddresses) ∅ =
      .ok smallResolved :=
  rfl

/-! ## The resolved view -/

namespace ResolvedTransactionView

open StateExcept

variable {accountKeysIter : List Pubkey → Option LoadedAddresses → List Pubkey}
  {view : TransactionView true} {la : Option LoadedAddresses} {reserved : Finset Pubkey}
  {r : ResolvedTransactionView}

/-- `try_new` accepts resolved addresses exactly when a `v0` message has them and they are as many
as the lookups name; none are as many as zero. -/
theorem tryNew_eq_ok :
    tryNew accountKeysIter view la reserved = .ok r ↔
      (view.version = .v0 → la.isSome) ∧
        (la.map fun l => l.writable.length).getD 0 = view.totalWritableLookupAccounts.toNat ∧
        (la.map fun l => l.readonly.length).getD 0 = view.totalReadonlyLookupAccounts.toNat ∧
        r = ⟨view, la, cacheIsWritable accountKeysIter view la reserved,
          length_cacheIsWritable accountKeysIter view la reserved⟩ := by
  unfold tryNew
  cases la with
  | none =>
    dsimp only
    rw [except_ite_throw_bind_eq_ok, except_ite_throw_bind_eq_ok]
    simp only [Option.isNone_none, and_true, Option.map_none, Option.getD_none,
      Option.isSome_none, Bool.false_eq_true, imp_false, ne_eq, not_or, not_not, pure,
      Except.pure, Except.ok.injEq]
    constructor
    · rintro ⟨h1, ⟨h2, h3⟩, h4⟩
      exact ⟨h1, by rw [h2]; rfl, by rw [h3]; rfl, h4.symm⟩
    · rintro ⟨h1, h2, h3, h4⟩
      exact ⟨h1, ⟨UInt16.toNat_inj.mp h2.symm, UInt16.toNat_inj.mp h3.symm⟩, h4.symm⟩
  | some l =>
    dsimp only
    rw [except_ite_throw_bind_eq_ok, except_ite_throw_bind_eq_ok]
    simp only [Option.isNone_some, Bool.false_eq_true, and_false, not_false_eq_true, true_and,
      Option.map_some, Option.getD_some, Option.isSome_some, implies_true, ne_eq, not_or, not_not,
      pure, Except.pure, Except.ok.injEq, and_assoc, eq_comm (a := r)]

/-- A resolved view of a sanitized view has at most 256 account keys. -/
theorem length_accountKeys_le (hiter : YieldsStaticThenLoaded accountKeysIter)
    (hc : view.CountsSane) (h : tryNew accountKeysIter view la reserved = .ok r) :
    (r.accountKeys accountKeysIter).length ≤ 256 := by
  obtain ⟨_, hw, hr, rfl⟩ := tryNew_eq_ok.mp h
  have htotal := hc.total_le
  show (accountKeysIter view.staticAccountKeys la).length ≤ 256
  rw [hiter.length_eq, TransactionView.length_staticAccountKeys, hw, hr]
  exact htotal

theorem isInvoked_iff (r : ResolvedTransactionView) (index : Nat) :
    r.isInvoked index = true ↔
      ∃ ix ∈ r.view.instructions, ix.programIdIndex.toNat = index := by
  unfold isInvoked
  split
  · rename_i hlt
    rw [List.any_eq_true]
    refine exists_congr fun ix => and_congr_right fun _ => ?_
    rw [beq_iff_eq, ← UInt8.toNat_inj, UInt8.toNat_ofNat_of_lt' hlt]
  · rename_i hge
    simp only [Bool.false_eq_true, false_iff, not_exists, not_and]
    intro ix _ hix
    have hlt := ix.programIdIndex.toNat_lt
    omega

/-- The flag `is_writable` reads, for a resolved view of a sanitized view. -/
theorem isWritable_eq (hiter : YieldsStaticThenLoaded accountKeysIter) (hc : view.CountsSane)
    (h : tryNew accountKeysIter view la reserved = .ok r) (index : Nat) :
    r.isWritable index =
      (((r.accountKeys accountKeysIter)[index]?.map (writableEntry r.view reserved index)).getD
          false &&
        r.view.instructions.all fun ix => index != ix.programIdIndex.toNat ||
          (r.accountKeys accountKeysIter).any (· == bpfLoaderUpgradeableId)) := by
  have hkeys := length_accountKeys_le hiter hc h
  obtain ⟨_, _, _, rfl⟩ := tryNew_eq_ok.mp h
  exact getD_cacheIsWritable hkeys index

/-- For a sanitized view whose lookups `try_new` resolves, and account keys yielded in the order
`YieldsStaticThenLoaded` states, an index is writable exactly when it names one of the account
keys, the message asks to write it, the key is not reserved, and, if an instruction invokes it,
the upgradeable loader is among the keys. -/
theorem isWritable_iff (hiter : YieldsStaticThenLoaded accountKeysIter) {data : List UInt8}
    {a b : Bool} (hview : TransactionView.tryNewSanitized data a b = .ok view)
    (h : tryNew accountKeysIter view la reserved = .ok r) (index : Nat) :
    r.isWritable index = true ↔
      ∃ key, (r.accountKeys accountKeysIter)[index]? = some key ∧ RequestsWrite r.view index ∧
        key ∉ reserved ∧
        (r.isInvoked index = true → bpfLoaderUpgradeableId ∈ r.accountKeys accountKeysIter) := by
  have hc := TransactionView.countsSane_of_tryNewSanitized hview
  have hview_eq : r.view = view := by
    obtain ⟨_, _, _, rfl⟩ := tryNew_eq_ok.mp h
    rfl
  rw [isWritable_eq hiter hc h, isInvoked_iff]
  cases hkey : (r.accountKeys accountKeysIter)[index]? with
  | none => simp
  | some key =>
    -- the entry of the first loop, and the second loop's condition on the programs
    have hentry : writableEntry r.view reserved index key = true ↔
        RequestsWrite r.view index ∧ key ∉ reserved := by
      rw [writableEntry, Bool.and_eq_true, hview_eq, isRequestedWrite_iff hc, Bool.not_eq_true',
        decide_eq_false_iff_not]
    have hprograms : (r.view.instructions.all fun ix => index != ix.programIdIndex.toNat ||
          (r.accountKeys accountKeysIter).any (· == bpfLoaderUpgradeableId)) = true ↔
        ((∃ ix ∈ r.view.instructions, ix.programIdIndex.toNat = index) →
          bpfLoaderUpgradeableId ∈ r.accountKeys accountKeysIter) := by
      simp only [List.all_eq_true, Bool.or_eq_true, bne_iff_ne, ne_eq, List.any_eq_true,
        beq_iff_eq, exists_eq_right]
      constructor
      · rintro hall ⟨ix, hix, rfl⟩
        exact (hall ix hix).resolve_left (not_not.mpr rfl)
      · intro himp ix hix
        by_cases hi : index = ix.programIdIndex.toNat
        · exact Or.inr (himp ⟨ix, hix, hi.symm⟩)
        · exact Or.inl hi
    rw [Option.map_some, Option.getD_some, Bool.and_eq_true, hentry, hprograms]
    constructor
    · rintro ⟨⟨hreq, hres⟩, hinv⟩
      exact ⟨key, rfl, hreq, hres, hinv⟩
    · rintro ⟨key', hkey', hreq, hres, hinv⟩
      cases hkey'
      exact ⟨⟨hreq, hres⟩, hinv⟩

/-- The program of the instruction, the static key at index `1`, is asked to be written but loses
its write: the upgradeable loader is not among the keys. -/
example : smallResolved.isWritable 1 = false := by decide

theorem isWritable_iff_smallTransaction :
    (YieldsStaticThenLoaded staticThenLoaded ∧
      TransactionView.tryNewSanitized smallTransaction.toBytes false false = .ok smallView ∧
      ResolvedTransactionView.tryNew staticThenLoaded smallView (some smallLoadedAddresses) ∅ =
        .ok smallResolved) ∧
    (smallResolved.isWritable 0 = true ↔
      ∃ key, (smallResolved.accountKeys staticThenLoaded)[0]? = some key ∧
        RequestsWrite smallResolved.view 0 ∧ key ∉ (∅ : Finset Pubkey) ∧
        (smallResolved.isInvoked 0 = true →
          bpfLoaderUpgradeableId ∈ smallResolved.accountKeys staticThenLoaded)) :=
  ⟨⟨yieldsStaticThenLoaded_staticThenLoaded, tryNewSanitized_smallTransaction, tryNew_smallView⟩,
    isWritable_iff yieldsStaticThenLoaded_staticThenLoaded tryNewSanitized_smallTransaction
      tryNew_smallView 0⟩

/-- A writable index is one the message asks to write. -/
theorem requestsWrite_of_isWritable (hiter : YieldsStaticThenLoaded accountKeysIter)
    (hc : view.CountsSane) (h : tryNew accountKeysIter view la reserved = .ok r) {index : Nat}
    (hw : r.isWritable index = true) : RequestsWrite view index := by
  have hview_eq : r.view = view := by
    obtain ⟨_, _, _, rfl⟩ := tryNew_eq_ok.mp h
    rfl
  rw [isWritable_eq hiter hc h] at hw
  cases hkey : (r.accountKeys accountKeysIter)[index]? with
  | none =>
    rw [hkey] at hw
    cases hw
  | some key =>
    rw [hkey, Option.map_some, Option.getD_some, Bool.and_eq_true, writableEntry,
      Bool.and_eq_true, hview_eq, isRequestedWrite_iff hc] at hw
    exact hw.1.1

/-- However many indexes are asked about, a resolved view of a sanitized view, with account keys
yielded in the order `YieldsStaticThenLoaded` states, has no more writable accounts among them
than the write locks it reports. -/
theorem card_writable_le (hiter : YieldsStaticThenLoaded accountKeysIter) {data : List UInt8}
    {a b : Bool} (hview : TransactionView.tryNewSanitized data a b = .ok view)
    (h : tryNew accountKeysIter view la reserved = .ok r) (indexes : Finset Nat) :
    (indexes.filter fun i => r.isWritable i = true).card ≤ r.numWriteLocks.toNat := by
  have hc := TransactionView.countsSane_of_tryNewSanitized hview
  have hreq := hc.required_le
  have hsigned := hc.readonlySigned_lt
  have hunsigned := hc.readonlyUnsigned_le
  have hlocks : r.numWriteLocks = view.numRequestedWriteLocks := by
    obtain ⟨_, _, _, rfl⟩ := tryNew_eq_ok.mp h
    rfl
  -- the writable indexes lie in the three ranges of requested writes
  have hsub : indexes.filter (fun i => r.isWritable i = true) ⊆
      Finset.range
          (view.numRequiredSignatures.toNat - view.numReadonlySignedStaticAccounts.toNat) ∪
        Finset.Ico view.numRequiredSignatures.toNat
          (view.numStaticAccountKeys.toNat - view.numReadonlyUnsignedStaticAccounts.toNat) ∪
        Finset.Ico view.numStaticAccountKeys.toNat
          (view.numStaticAccountKeys.toNat + view.totalWritableLookupAccounts.toNat) := by
    intro i hi
    have hw := requestsWrite_of_isWritable hiter hc h (Finset.mem_filter.mp hi).2
    unfold RequestsWrite at hw
    simp only [Finset.mem_union, Finset.mem_range, Finset.mem_Ico]
    tauto
  calc (indexes.filter fun i => r.isWritable i = true).card
      ≤ (Finset.range _ ∪ Finset.Ico _ _ ∪ Finset.Ico _ _).card := Finset.card_le_card hsub
    _ ≤ (Finset.range _ ∪ Finset.Ico _ _).card + (Finset.Ico _ _).card :=
        Finset.card_union_le _ _
    _ ≤ (Finset.range _).card + (Finset.Ico _ _).card + (Finset.Ico _ _).card :=
        Nat.add_le_add_right (Finset.card_union_le _ _) _
    _ = r.numWriteLocks.toNat := by
        rw [Finset.card_range, Nat.card_Ico, Nat.card_Ico, hlocks, numRequestedWriteLocks_toNat hc]
        omega

theorem card_writable_le_smallTransaction :
    (YieldsStaticThenLoaded staticThenLoaded ∧
      TransactionView.tryNewSanitized smallTransaction.toBytes false false = .ok smallView ∧
      ResolvedTransactionView.tryNew staticThenLoaded smallView (some smallLoadedAddresses) ∅ =
        .ok smallResolved) ∧
    ((Finset.range 256).filter fun i => smallResolved.isWritable i = true).card ≤
      smallResolved.numWriteLocks.toNat :=
  ⟨⟨yieldsStaticThenLoaded_staticThenLoaded, tryNewSanitized_smallTransaction, tryNew_smallView⟩,
    card_writable_le yieldsStaticThenLoaded_staticThenLoaded tryNewSanitized_smallTransaction
      tryNew_smallView _⟩

end ResolvedTransactionView

end TRv1.TransactionView
