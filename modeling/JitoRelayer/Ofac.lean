import JitoRelayer.Basic

/-!
# The OFAC filter (`core/src/ofac.rs`)

`is_tx_ofac_related` looks for a denied address among a transaction's static account keys and
among the addresses its address-table lookups reference through the table cache. Only the
parts of a `VersionedTransaction` the filter reads are modelled: the static keys and the
lookups (`None` for a legacy message).

A loop of the source that returns `true` at the first hit and `false` after the last item is
a `List.any`.

* `isTxOfacRelated_iff`: the filter is its set definition. A transaction is related iff a
  denied address is a static key, or is the address at an index one of its lookups references
  in a table of the cache; a table missing from the cache, and an index past the end of its
  table, reference nothing.
-/

namespace JitoRelayer

/-- `MessageAddressTableLookup`. -/
structure MessageAddressTableLookup where
  accountKey : Pubkey
  writableIndexes : List UInt8
  readonlyIndexes : List UInt8
  deriving DecidableEq

/-- The parts of a `VersionedTransaction` that `is_tx_ofac_related` reads:
`message.static_account_keys()` and `message.address_table_lookups()`. -/
structure VersionedTransaction where
  staticAccountKeys : List Pubkey
  addressTableLookups : Option (List MessageAddressTableLookup)
  deriving DecidableEq

/-- `AddressLookupTableAccount`. -/
structure AddressLookupTableAccount where
  key : Pubkey
  addresses : List Pubkey
  deriving DecidableEq

/-- The shared `DashMap<Pubkey, AddressLookupTableAccount>`, as one snapshot. -/
abbrev LookupTableCache := AList (fun _ : Pubkey => AddressLookupTableAccount)

/-- `is_ofac_address_in_static_keys`. The denied `HashSet` is the list of its members. -/
def isOfacAddressInStaticKeys (tx : VersionedTransaction) (ofacAddresses : List Pubkey) : Bool :=
  tx.staticAccountKeys.any fun acc => acc ∈ ofacAddresses

/-- The body of the index loop of `is_ofac_address_in_lookup_table`: `addresses.get(idx)` is a
denied address. -/
def isOfacIndex (ofacAddresses : List Pubkey) (info : AddressLookupTableAccount) (idx : UInt8) :
    Bool :=
  match info.addresses.get? idx.toNat with
  | some account => account ∈ ofacAddresses
  | none => false

/-- `is_ofac_address_in_lookup_table`. -/
def isOfacAddressInLookupTable (tx : VersionedTransaction) (ofacAddresses : List Pubkey)
    (cache : LookupTableCache) : Bool :=
  match tx.addressTableLookups with
  | some lookupTables =>
    lookupTables.any fun table =>
      match cache.lookup table.accountKey with
      | some info => (table.writableIndexes ++ table.readonlyIndexes).any (isOfacIndex ofacAddresses info)
      | none => false
  | none => false

/-- `is_tx_ofac_related`. -/
def isTxOfacRelated (tx : VersionedTransaction) (ofacAddresses : List Pubkey)
    (cache : LookupTableCache) : Bool :=
  isOfacAddressInStaticKeys tx ofacAddresses || isOfacAddressInLookupTable tx ofacAddresses cache

theorem isOfacAddressInStaticKeys_iff {tx : VersionedTransaction} {ofacAddresses : List Pubkey} :
    isOfacAddressInStaticKeys tx ofacAddresses = true ↔
      ∃ d ∈ ofacAddresses, d ∈ tx.staticAccountKeys := by
  simp only [isOfacAddressInStaticKeys, List.any_eq_true, decide_eq_true_eq]
  exact ⟨fun ⟨d, hk, hd⟩ => ⟨d, hd, hk⟩, fun ⟨d, hd, hk⟩ => ⟨d, hk, hd⟩⟩

theorem isOfacIndex_iff {ofacAddresses : List Pubkey} {info : AddressLookupTableAccount}
    {idx : UInt8} :
    isOfacIndex ofacAddresses info idx = true ↔
      ∃ d ∈ ofacAddresses, info.addresses.get? idx.toNat = some d := by
  unfold isOfacIndex
  split
  · rename_i account h
    simp only [decide_eq_true_eq, h, Option.some.injEq]
    exact ⟨fun hd => ⟨account, hd, rfl⟩, fun ⟨d, hd, e⟩ => e ▸ hd⟩
  · rename_i h
    exact ⟨fun e => absurd e Bool.false_ne_true, fun ⟨_, _, e⟩ => nomatch h.symm.trans e⟩

theorem isOfacAddressInLookupTable_iff {tx : VersionedTransaction} {ofacAddresses : List Pubkey}
    {cache : LookupTableCache} :
    isOfacAddressInLookupTable tx ofacAddresses cache = true ↔
      ∃ d ∈ ofacAddresses, ∃ t ∈ tx.addressTableLookups.getD [], ∃ info,
        cache.lookup t.accountKey = some info ∧
          ∃ i ∈ t.writableIndexes ++ t.readonlyIndexes, info.addresses.get? i.toNat = some d := by
  unfold isOfacAddressInLookupTable
  cases tx.addressTableLookups with
  | none => simp
  | some lookupTables =>
    simp only [List.any_eq_true, Option.getD_some]
    constructor
    · rintro ⟨t, ht, h⟩
      split at h
      · rename_i info hinfo
        obtain ⟨i, hi, h⟩ := List.any_eq_true.mp h
        obtain ⟨d, hd, hget⟩ := isOfacIndex_iff.mp h
        exact ⟨d, hd, t, ht, info, hinfo, i, hi, hget⟩
      · cases h
    · rintro ⟨d, hd, t, ht, info, hinfo, i, hi, hget⟩
      refine ⟨t, ht, ?_⟩
      rw [hinfo]
      exact List.any_eq_true.mpr ⟨i, hi, isOfacIndex_iff.mpr ⟨d, hd, hget⟩⟩

/-- `is_ofac_address_in_lookup_table` reads the cache only at the tables its lookups name. -/
theorem isOfacAddressInLookupTable_congr {tx : VersionedTransaction} {ofacAddresses : List Pubkey}
    {cache cache' : LookupTableCache}
    (h : ∀ t ∈ tx.addressTableLookups.getD [], cache.lookup t.accountKey = cache'.lookup t.accountKey) :
    isOfacAddressInLookupTable tx ofacAddresses cache =
      isOfacAddressInLookupTable tx ofacAddresses cache' := by
  unfold isOfacAddressInLookupTable
  cases hl : tx.addressTableLookups with
  | none => rfl
  | some lookupTables =>
    rw [hl, Option.getD_some] at h
    refine Bool.eq_iff_iff.mpr ?_
    simp only [List.any_eq_true]
    exact exists_congr fun t => and_congr_right fun ht => by rw [h t ht]

/-- **The denylist filter is its set definition.** `is_tx_ofac_related` is true iff some
denied address is a static account key, or is, for a lookup of the transaction whose table is
in the cache, the address of that table at one of the lookup's writable or readonly indexes
below the table's length. -/
theorem isTxOfacRelated_iff (tx : VersionedTransaction) (ofacAddresses : List Pubkey)
    (cache : LookupTableCache) :
    isTxOfacRelated tx ofacAddresses cache = true ↔
      ∃ d ∈ ofacAddresses, d ∈ tx.staticAccountKeys ∨
        ∃ t ∈ tx.addressTableLookups.getD [], ∃ info, cache.lookup t.accountKey = some info ∧
          ∃ i ∈ t.writableIndexes ++ t.readonlyIndexes,
            ∃ h : i.toNat < info.addresses.length, info.addresses.get ⟨i.toNat, h⟩ = d := by
  simp only [isTxOfacRelated, Bool.or_eq_true, isOfacAddressInStaticKeys_iff,
    isOfacAddressInLookupTable_iff, List.get?_eq_some]
  constructor
  · rintro (⟨d, hd, hk⟩ | ⟨d, hd, h⟩)
    · exact ⟨d, hd, .inl hk⟩
    · exact ⟨d, hd, .inr h⟩
  · rintro ⟨d, hd, hk | h⟩
    · exact .inl ⟨d, hd, hk⟩
    · exact .inr ⟨d, hd, h⟩

end JitoRelayer
