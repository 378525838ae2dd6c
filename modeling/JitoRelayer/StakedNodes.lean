import JitoRelayer.Basic

/-!
# The stake map (`core/src/staked_nodes_updater_service.rs`)

`StakedNodesUpdaterService::try_refresh_pk_to_stake` rebuilds the map from validator identity
to activated stake that the QUIC server's stake-weighted admission reads. It chains the current
and the delinquent vote accounts, keeps each one whose `node_pubkey` parses, and `collect`s the
pairs into a `HashMap`. `Pubkey::from_str` is a parameter of the model.

* `pkToStake`: the collected map. `HashMap::from_iter` inserts the pairs in order, so a later
  vote account of an identity replaces the stake of an earlier one.
* `lookup_pkToStake`: each identity maps to the stake of its last vote account, and no key is
  an identity no vote account parses to.
* `stake_map_keeps_last`: that, and two vote accounts of one identity. The map holds one of
  their stakes, not the sum that `specStake` describes, and which one depends on their order.
-/

namespace JitoRelayer

/-- The fields of `RpcVoteAccountInfo` that the map reads. -/
structure RpcVoteAccountInfo where
  nodePubkey : String
  activatedStake : Nat
  deriving DecidableEq

/-- `RpcVoteAccountStatus`. -/
structure RpcVoteAccountStatus where
  current : List RpcVoteAccountInfo
  delinquent : List RpcVoteAccountInfo
  deriving DecidableEq

/-- The published `HashMap<Pubkey, u64>`. -/
abbrev StakeMap := AList fun _ : Pubkey => Nat

section

variable (fromStr : String → Option Pubkey)

/-- The `filter_map` closure: the identity, when `Pubkey::from_str` parses it, with the stake. -/
def stakeEntry (v : RpcVoteAccountInfo) : Option (Pubkey × Nat) :=
  (fromStr v.nodePubkey).map fun pk => (pk, v.activatedStake)

/-- The map `collect` builds: the pairs of the current, then the delinquent vote accounts,
inserted in order into an empty `HashMap`. -/
def pkToStake (status : RpcVoteAccountStatus) : StakeMap :=
  ((status.current ++ status.delinquent).filterMap (stakeEntry fromStr)).foldl
    (fun m e => m.insert e.1 e.2) ∅

/-- `try_refresh_pk_to_stake`: when the refresh is due (`last_stakes.elapsed()` is over
`PK_TO_STAKE_REFRESH_DURATION`), the result of `get_vote_accounts` decides. An error is
returned by `?` and leaves the map as it was. -/
def tryRefreshPkToStake {ε : Type} (due : Bool) (voteAccounts : Except ε RpcVoteAccountStatus)
    (pubkeyStakeMap : StakeMap) : Except ε Bool × StakeMap :=
  if due then
    match voteAccounts with
    | .ok status => (.ok true, pkToStake fromStr status)
    | .error e => (.error e, pubkeyStakeMap)
  else (.ok false, pubkeyStakeMap)

/-- The map the spec describes: each identity to the sum of the stakes of all the vote accounts
whose `node_pubkey` parses to it. -/
def specStake (status : RpcVoteAccountStatus) (pk : Pubkey) : Nat :=
  (((status.current ++ status.delinquent).filter fun v => fromStr v.nodePubkey = some pk).map
    (·.activatedStake)).sum

/-- **What the map holds.** An identity maps to the stake of the last vote account, current
then delinquent, whose `node_pubkey` parses to it. An identity that no vote account parses to
is not a key. -/
theorem lookup_pkToStake (status : RpcVoteAccountStatus) (pk : Pubkey) :
    (pkToStake fromStr status).lookup pk =
      ((status.current ++ status.delinquent).reverse.find?
        fun v => fromStr v.nodePubkey = some pk).map (·.activatedStake) := by
  rw [pkToStake, lookup_foldl_insert, ← List.filterMap_reverse, List.find?_filterMap]
  simp only [AList.lookup_empty, Option.or_none, stakeEntry]
  have parses : (fun v : RpcVoteAccountInfo => ((fromStr v.nodePubkey).map
      fun pk => (pk, v.activatedStake)).any fun e => e.1 = pk) =
      fun v => decide (fromStr v.nodePubkey = some pk) := by
    funext v; cases fromStr v.nodePubkey <;> simp
  rw [parses]
  cases h : (status.current ++ status.delinquent).reverse.find?
      fun v => fromStr v.nodePubkey = some pk with
  | none => rfl
  | some v =>
    have hv := List.find?_some h
    simp only [decide_eq_true_eq] at hv
    simp [hv]

end

/-- **The stake of an identity is its last vote account's stake.** For every `Pubkey::from_str`
and every `get_vote_accounts` result, an identity maps to the stake of the last vote account,
current then delinquent, whose `node_pubkey` parses to it, and an identity no vote account
parses to is not a key. So of two vote accounts of one identity, with stakes `1` and `2`, which
the spec's map sums to `3`, the refreshed map holds the later account's stake, `2`, whatever it
held before, and `1` once the two are swapped. -/
theorem stake_map_keeps_last (pubkeyStakeMap : StakeMap) :
    (∀ (fromStr : String → Option Pubkey) (status : RpcVoteAccountStatus) (pk : Pubkey),
      (pkToStake fromStr status).lookup pk =
        ((status.current ++ status.delinquent).reverse.find?
          fun v => fromStr v.nodePubkey = some pk).map (·.activatedStake)) ∧
    (let a : Pubkey := ⟨List.replicate 32 1, rfl⟩
     let fromStr : String → Option Pubkey := fun s => if s = "a" then some a else none
     let v₁ : RpcVoteAccountInfo := ⟨"a", 1⟩
     let v₂ : RpcVoteAccountInfo := ⟨"a", 2⟩
     specStake fromStr ⟨[v₁], [v₂]⟩ a = 3 ∧
       (tryRefreshPkToStake fromStr true (.ok ⟨[v₁], [v₂]⟩ : Except Unit _)
         pubkeyStakeMap).2.lookup a = some 2 ∧
       (tryRefreshPkToStake fromStr true (.ok ⟨[v₂], [v₁]⟩ : Except Unit _)
         pubkeyStakeMap).2.lookup a = some 1) :=
  ⟨lookup_pkToStake, rfl, rfl, rfl⟩

end JitoRelayer
