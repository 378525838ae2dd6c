import JitoRelayer.Ofac

/-!
# The lookup-table refresher (`transaction-relayer/src/main.rs`)

`refresh_address_lookup_table` fetches the accounts of the address-lookup-table program,
inserts every one whose data deserializes into the shared `DashMap`, and then `retain`s only
the keys it inserted. Each `insert`, and each removal by `retain`, is one change of the map,
and a concurrent `is_tx_ofac_related` reads the map between any two. The refresh is therefore
modelled by the list of its changes, and the state after the first `n` of them is what a reader
can see. `AddressLookupTable::deserialize` is a parameter: the addresses of the table, when the
data is one.

* `refreshAddressLookupTable`: the changes, in order, or the RPC error.
* `lastLoadedTable`: what the spec maps a key to after a refresh.
* `refresh_mark_and_sweep`: an RPC error changes nothing. Otherwise the map ends holding, for
  each key, its last returned table that deserializes, and no state in between lacks a key the
  map holds both before and after.
* `refresh_keeps_unchanged_tables`: when the RPC returns each account once, a table the refresh
  ends with unchanged is unchanged in every state in between, and so is the OFAC verdict on a
  transaction that uses only such tables.
-/

namespace JitoRelayer

/-- The field of an `Account` that the refresh reads. -/
structure Account where
  data : List UInt8
  deriving DecidableEq

/-- One change of the shared map: an `insert`, or the removal of one entry by `retain`. -/
inductive TableWrite
  | insert (key : Pubkey) (table : AddressLookupTableAccount)
  | remove (key : Pubkey)
  deriving DecidableEq

/-- The map after a change. -/
def TableWrite.apply (lookupTable : LookupTableCache) : TableWrite → LookupTableCache
  | .insert key table => lookupTable.insert key table
  | .remove key => lookupTable.erase key

section

variable (deserialize : List UInt8 → Option (List Pubkey))

/-- The `Ok(table)` arm of the loop: each account whose data deserializes, with the entry
`{key, addresses}` it inserts, in the order of the RPC's result. -/
def loadedTables (accounts : List (Pubkey × Account)) :
    List (Pubkey × AddressLookupTableAccount) :=
  accounts.filterMap fun a =>
    (deserialize a.2.data).map fun addresses => (a.1, ⟨a.1, addresses⟩)

/-- The changes of a refresh once the accounts are loaded: the loop inserts each table and
collects its key into `new_pubkeys`, and `retain` then removes, in the map's order, each entry
whose key is not among them. -/
def refreshWrites (tables : List (Pubkey × AddressLookupTableAccount))
    (lookupTable : LookupTableCache) : List TableWrite :=
  let newPubkeys := tables.map Prod.fst
  let inserted := tables.foldl (fun m t => m.insert t.1 t.2) lookupTable
  tables.map (fun t => .insert t.1 t.2) ++
    (inserted.keys.filter fun key => key ∉ newPubkeys).map .remove

/-- `refresh_address_lookup_table` on the result of `get_program_accounts`: the changes it makes
to the map, in order. An RPC error is returned by `?` before any change. -/
def refreshAddressLookupTable {ε : Type} (accounts : Except ε (List (Pubkey × Account)))
    (lookupTable : LookupTableCache) : Except ε (List TableWrite) :=
  match accounts with
  | .error e => .error e
  | .ok accounts => .ok (refreshWrites (loadedTables deserialize accounts) lookupTable)

/-- The table the spec maps `key` to after a refresh: `{key, addresses}` of the last account
returned for `key` whose data deserializes, and none when there is none. -/
def lastLoadedTable (accounts : List (Pubkey × Account)) (key : Pubkey) :
    Option AddressLookupTableAccount :=
  (accounts.reverse.find? fun a => a.1 = key ∧ (deserialize a.2.data).isSome).bind fun a =>
    (deserialize a.2.data).map fun addresses => ⟨key, addresses⟩

/-- The last loaded table of a key is the spec's. -/
theorem find?_loadedTables (accounts : List (Pubkey × Account)) (key : Pubkey) :
    (((loadedTables deserialize accounts).reverse.find? fun t => t.1 = key).map Prod.snd) =
      lastLoadedTable deserialize accounts key := by
  rw [loadedTables, ← List.filterMap_reverse, List.find?_filterMap]
  have loads : (fun a : Pubkey × Account => ((deserialize a.2.data).map
      fun addresses => (a.1, (⟨a.1, addresses⟩ : AddressLookupTableAccount))).any
        fun t => t.1 = key) =
      fun a => decide (a.1 = key ∧ (deserialize a.2.data).isSome) := by
    funext a; cases deserialize a.2.data <;> simp
  rw [loads, lastLoadedTable]
  cases h : accounts.reverse.find? fun a => a.1 = key ∧ (deserialize a.2.data).isSome with
  | none => rfl
  | some a =>
    have ha := List.find?_some h
    simp only [decide_eq_true_eq] at ha
    cases hd : deserialize a.2.data <;> simp [hd, ha.1]

end

theorem foldl_apply_inserts (tables : List (Pubkey × AddressLookupTableAccount))
    (lookupTable : LookupTableCache) :
    (tables.map fun t => TableWrite.insert t.1 t.2).foldl TableWrite.apply lookupTable =
      tables.foldl (fun m t => m.insert t.1 t.2) lookupTable := by
  rw [List.foldl_map]; rfl

theorem foldl_apply_removes (keys : List Pubkey) (lookupTable : LookupTableCache) :
    (keys.map TableWrite.remove).foldl TableWrite.apply lookupTable =
      keys.foldl (fun m key => m.erase key) lookupTable := by
  rw [List.foldl_map]; rfl

/-- A change that does not remove `key` keeps it in the map. -/
theorem mem_apply {key : Pubkey} {lookupTable : LookupTableCache} {w : TableWrite}
    (hw : w ≠ .remove key) (h : key ∈ lookupTable) : key ∈ w.apply lookupTable := by
  cases w with
  | insert k t => exact (AList.mem_insert _).mpr (.inr h)
  | remove k => exact AList.mem_erase.mpr ⟨fun e => hw (e ▸ rfl), h⟩

theorem mem_foldl_apply {key : Pubkey} (writes : List TableWrite) (hw : .remove key ∉ writes)
    {lookupTable : LookupTableCache} (h : key ∈ lookupTable) :
    key ∈ writes.foldl TableWrite.apply lookupTable := by
  induction writes generalizing lookupTable with
  | nil => exact h
  | cons w writes ih =>
    rw [List.mem_cons, not_or] at hw
    exact ih hw.2 (mem_apply (Ne.symm hw.1) h)

/-- After all the changes, a key holds its last loaded table: the loop's last insert of it
wins, and `retain` removes exactly the keys without one. -/
theorem lookup_foldl_refreshWrites (tables : List (Pubkey × AddressLookupTableAccount))
    (lookupTable : LookupTableCache) (key : Pubkey) :
    ((refreshWrites tables lookupTable).foldl TableWrite.apply lookupTable).lookup key =
      (tables.reverse.find? fun t => t.1 = key).map Prod.snd := by
  rw [refreshWrites, List.foldl_append, foldl_apply_inserts, foldl_apply_removes,
    lookup_foldl_erase]
  simp only [List.mem_filter, decide_eq_true_eq, ← AList.mem_keys]
  cases h : tables.reverse.find? fun t => t.1 = key with
  | some t =>
    have ht := List.find?_some h
    simp only [decide_eq_true_eq] at ht
    have hkey : key ∈ tables.map Prod.fst :=
      List.mem_map.mpr ⟨t, List.mem_reverse.mp (List.mem_of_find?_eq_some h), ht⟩
    rw [if_neg fun hr => hr.2 hkey, lookup_foldl_insert, h]
    rfl
  | none =>
    have hkey : key ∉ tables.map Prod.fst := fun hk => by
      obtain ⟨t, ht, rfl⟩ := List.mem_map.mp hk
      exact List.find?_eq_none.mp h t (List.mem_reverse.mpr ht) (decide_eq_true rfl)
    by_cases hin : key ∈ tables.foldl (fun m t => m.insert t.1 t.2) lookupTable
    · rw [if_pos ⟨hin, hkey⟩]
      rfl
    · rw [if_neg fun hr => hin hr.1]
      exact AList.lookup_eq_none.mpr hin

/-- `retain` removes only keys that the loop did not insert. -/
theorem not_mem_of_remove_mem {tables : List (Pubkey × AddressLookupTableAccount)}
    {lookupTable : LookupTableCache} {key : Pubkey}
    (h : .remove key ∈ refreshWrites tables lookupTable) : key ∉ tables.map Prod.fst := by
  simp only [refreshWrites, List.mem_append, List.mem_map, List.mem_filter] at h
  rcases h with ⟨_, _, h⟩ | ⟨k, ⟨_, hk⟩, h⟩
  · cases h
  · cases h
    rw [List.mem_map]
    exact of_decide_eq_true hk

/-- **The refresh is a mark and sweep.** An RPC error makes no change. Otherwise, after all
the changes, each key maps to `{key, addresses}` of its last returned account that
deserializes, so the keys are the returned keys that deserialize; and a key the map holds both
before and after the refresh is in the map after every prefix of the changes, which is what a
concurrent `is_tx_ofac_related` can read. -/
theorem refresh_mark_and_sweep (deserialize : List UInt8 → Option (List Pubkey)) {ε : Type}
    (accounts : Except ε (List (Pubkey × Account))) (lookupTable : LookupTableCache) :
    match accounts with
    | .error e => refreshAddressLookupTable deserialize accounts lookupTable = .error e
    | .ok returned => ∃ writes,
        refreshAddressLookupTable deserialize accounts lookupTable = .ok writes ∧
        (∀ key, (writes.foldl TableWrite.apply lookupTable).lookup key =
          lastLoadedTable deserialize returned key) ∧
        ∀ n key, key ∈ lookupTable → key ∈ writes.foldl TableWrite.apply lookupTable →
          key ∈ (writes.take n).foldl TableWrite.apply lookupTable := by
  cases accounts with
  | error e => rfl
  | ok returned =>
    refine ⟨_, rfl, fun key => ?_, fun n key hbefore hafter => ?_⟩
    · rw [lookup_foldl_refreshWrites, find?_loadedTables]
    · refine mem_foldl_apply _ (fun hw => not_mem_of_remove_mem (List.mem_of_mem_take hw) ?_)
        hbefore
      rw [← AList.lookup_isSome, lookup_foldl_refreshWrites] at hafter
      simp only [Option.isSome_map', List.find?_isSome, List.mem_reverse, decide_eq_true_eq]
        at hafter
      obtain ⟨t, ht, rfl⟩ := hafter
      exact List.mem_map_of_mem _ ht

/-! ## Readers during a refresh -/

/-- A change after which `key` still holds `v`, whenever it held `v` before: an insert of `key`
writes `v`, and a removal of `key` happens only when `v` is absent. -/
def TableWrite.Keeps (key : Pubkey) (v : Option AddressLookupTableAccount) : TableWrite → Prop
  | .insert k t => k = key → some t = v
  | .remove k => k = key → v = none

theorem lookup_apply_of_keeps {key : Pubkey} {v : Option AddressLookupTableAccount}
    {w : TableWrite} {lookupTable : LookupTableCache} (hw : w.Keeps key v)
    (h : lookupTable.lookup key = v) : (w.apply lookupTable).lookup key = v := by
  cases w with
  | insert k t =>
    by_cases hk : k = key
    · subst hk
      rw [TableWrite.apply, AList.lookup_insert]
      exact hw rfl
    · rw [TableWrite.apply, AList.lookup_insert_ne (Ne.symm hk), h]
  | remove k =>
    by_cases hk : k = key
    · subst hk
      rw [TableWrite.apply, AList.lookup_erase]
      exact (hw rfl).symm
    · rw [TableWrite.apply, AList.lookup_erase_ne (Ne.symm hk), h]

theorem lookup_foldl_apply_of_keeps {key : Pubkey} {v : Option AddressLookupTableAccount}
    {writes : List TableWrite} (hw : ∀ w ∈ writes, w.Keeps key v) {lookupTable : LookupTableCache}
    (h : lookupTable.lookup key = v) : (writes.foldl TableWrite.apply lookupTable).lookup key = v := by
  induction writes generalizing lookupTable with
  | nil => exact h
  | cons w writes ih =>
    exact ih (fun w' hw' => hw w' (List.mem_cons_of_mem w hw'))
      (lookup_apply_of_keeps (hw w (List.mem_cons_self _ _)) h)

section

variable (deserialize : List UInt8 → Option (List Pubkey))

/-- The keys of the loaded tables are the returned keys whose data deserializes, in order. -/
theorem map_fst_loadedTables (accounts : List (Pubkey × Account)) :
    (loadedTables deserialize accounts).map Prod.fst =
      (accounts.filter fun a => (deserialize a.2.data).isSome).map Prod.fst := by
  induction accounts with
  | nil => rfl
  | cons a accounts ih =>
    simp only [loadedTables] at ih ⊢
    cases h : deserialize a.2.data <;> simp [List.filterMap_cons, List.filter_cons, h, ih]

/-- **Every change of a refresh keeps each key at its final table**, when the RPC returns each
account once: a key is inserted only with its one loaded table, and removed only when it has
none. -/
theorem keeps_refreshWrites {accounts : List (Pubkey × Account)}
    (hnodup : (accounts.map Prod.fst).Nodup) (lookupTable : LookupTableCache) (key : Pubkey) :
    ∀ w ∈ refreshWrites (loadedTables deserialize accounts) lookupTable,
      w.Keeps key (lastLoadedTable deserialize accounts key) := by
  have htables : ((loadedTables deserialize accounts).map Prod.fst).Nodup := by
    rw [map_fst_loadedTables]
    exact ((List.filter_sublist _).map _).nodup hnodup
  rw [← find?_loadedTables]
  intro w hw
  cases w with
  | insert k t =>
    rintro rfl
    have hmem : (k, t) ∈ loadedTables deserialize accounts := by
      simp only [refreshWrites, List.mem_append, List.mem_map] at hw
      rcases hw with ⟨t', ht', h⟩ | ⟨_, _, h⟩
      · cases h
        exact ht'
      · cases h
    cases h : (loadedTables deserialize accounts).reverse.find? fun t => t.1 = k with
    | none =>
      exact absurd (decide_eq_true rfl)
        (List.find?_eq_none.mp h (k, t) (List.mem_reverse.mpr hmem))
    | some t' =>
      have hk := List.find?_some h
      have ht' := List.mem_reverse.mp (List.mem_of_find?_eq_some h)
      rw [List.inj_on_of_nodup_map htables ht' hmem (of_decide_eq_true hk)]
      rfl
  | remove k =>
    rintro rfl
    have hkey := not_mem_of_remove_mem hw
    rw [List.find?_eq_none.mpr fun t ht hk => hkey (List.mem_map.mpr
      ⟨t, List.mem_reverse.mp ht, of_decide_eq_true hk⟩)]
    rfl

/-- A key whose final table is the one it held before holds it after every prefix of the
changes. -/
theorem lookup_take_refreshWrites {accounts : List (Pubkey × Account)}
    (hnodup : (accounts.map Prod.fst).Nodup) (lookupTable : LookupTableCache) {key : Pubkey}
    (hkey : lastLoadedTable deserialize accounts key = lookupTable.lookup key) (n : Nat) :
    (((refreshWrites (loadedTables deserialize accounts) lookupTable).take n).foldl
      TableWrite.apply lookupTable).lookup key = lookupTable.lookup key :=
  lookup_foldl_apply_of_keeps (fun w hw => hkey ▸ keeps_refreshWrites deserialize hnodup
    lookupTable key w (List.mem_of_mem_take hw)) rfl

/-- **A refresh never shows a reader a changed table where the table ends unchanged.** If the
RPC returns each account once, a key whose table after the refresh is the one the map held
before holds that same table after every prefix of the changes, which is what a concurrent
reader's `get` can find; so `is_tx_ofac_related`, run during the refresh on a transaction whose
lookups name only such tables, decides as it did before the refresh. -/
theorem refresh_keeps_unchanged_tables {ε : Type} {accounts : List (Pubkey × Account)}
    (hnodup : (accounts.map Prod.fst).Nodup) {lookupTable : LookupTableCache}
    {writes : List TableWrite}
    (hrefresh : refreshAddressLookupTable deserialize (.ok accounts : Except ε _) lookupTable =
      .ok writes) :
    (∀ key, lastLoadedTable deserialize accounts key = lookupTable.lookup key → ∀ n,
        ((writes.take n).foldl TableWrite.apply lookupTable).lookup key = lookupTable.lookup key) ∧
      ∀ tx ofacAddresses, (∀ t ∈ tx.addressTableLookups.getD [],
          lastLoadedTable deserialize accounts t.accountKey = lookupTable.lookup t.accountKey) →
        ∀ n, isTxOfacRelated tx ofacAddresses ((writes.take n).foldl TableWrite.apply lookupTable) =
          isTxOfacRelated tx ofacAddresses lookupTable := by
  obtain rfl : refreshWrites (loadedTables deserialize accounts) lookupTable = writes :=
    Except.ok.inj hrefresh
  refine ⟨fun key hkey n => lookup_take_refreshWrites deserialize hnodup lookupTable hkey n,
    fun tx ofacAddresses htx n => ?_⟩
  rw [isTxOfacRelated, isTxOfacRelated, isOfacAddressInLookupTable_congr fun t ht =>
    lookup_take_refreshWrites deserialize hnodup lookupTable (htx t ht) n]

/-- A refresh that returns, once, the one table the map already holds. -/
theorem refresh_keeps_unchanged_tables_same_table :
    let k : Pubkey := ⟨List.replicate 32 1, rfl⟩
    let deserialize : List UInt8 → Option (List Pubkey) := fun _ => some [k]
    let accounts : List (Pubkey × Account) := [(k, ⟨[1]⟩)]
    let lookupTable : LookupTableCache := (∅ : LookupTableCache).insert k ⟨k, [k]⟩
    let writes := [TableWrite.insert k ⟨k, [k]⟩]
    (accounts.map Prod.fst).Nodup ∧
      refreshAddressLookupTable deserialize (.ok accounts : Except Unit _) lookupTable =
        .ok writes ∧
      (∀ key, lastLoadedTable deserialize accounts key = lookupTable.lookup key → ∀ n,
        ((writes.take n).foldl TableWrite.apply lookupTable).lookup key = lookupTable.lookup key) ∧
      ∀ tx ofacAddresses, (∀ t ∈ tx.addressTableLookups.getD [],
          lastLoadedTable deserialize accounts t.accountKey = lookupTable.lookup t.accountKey) →
        ∀ n, isTxOfacRelated tx ofacAddresses ((writes.take n).foldl TableWrite.apply lookupTable) =
          isTxOfacRelated tx ofacAddresses lookupTable := by
  intro k deserialize accounts lookupTable writes
  have hnodup : (accounts.map Prod.fst).Nodup := List.nodup_singleton k
  have hrefresh : refreshAddressLookupTable deserialize (.ok accounts : Except Unit _)
      lookupTable = .ok writes := rfl
  exact ⟨hnodup, hrefresh, refresh_keeps_unchanged_tables deserialize hnodup hrefresh⟩

end

end JitoRelayer
