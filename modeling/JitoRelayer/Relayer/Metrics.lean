import JitoRelayer.Relayer.Delivery

/-!
# The connection metrics (`relayer/src/relayer.rs`)

`drop_connections` adds the length of its list to `num_removed_connections` and then removes
each listed pubkey that is subscribed. The metrics arm reports `num_current_connections` and
`packet_subscriptions_total_queued`, the sum over the subscribers of
`SUBSCRIBER_QUEUE_CAPACITY - x.capacity()` in `usize`.

* `removed_dropConnections`: when every listed pubkey is subscribed, `drop_connections` removes
  as many subscriptions as the list has distinct pubkeys.
* `heartbeatArm_removed`: the heartbeat arm lists each subscriber at most once, so its count is
  exact.
* `removed_connections_overcount`: those two, and the packet arm lists a closed subscriber once
  per chunk, so the count exceeds the removals.
* `QueueState`: the messages queued on each channel; `Capped`: every sender the relayer holds
  has the bound `SUBSCRIBER_QUEUE_CAPACITY`, in every reachable state; `queued_depth_exact`: so
  no subtraction of the metric underflows, and it is the number of queued messages.
-/

namespace JitoRelayer

/-! ## What `drop_connections` removes -/

/-- The keys `drop_connections` leaves are those not in its list. -/
theorem keys_dropConnections_perm (ds : List Pubkey) (subs : PacketSubscriptions) (m : RelayerMetrics) :
    (dropConnections ds subs m).1.keys.Perm (subs.keys.filter (· ∉ ds)) := by
  refine (List.perm_ext_iff_of_nodup (AList.keys_nodup _) ((AList.keys_nodup _).filter _)).mpr
    fun k => ?_
  rw [List.mem_filter, decide_eq_true_iff]
  change k ∈ (dropConnections ds subs m).1 ↔ k ∈ subs ∧ k ∉ ds
  rw [← AList.lookup_isSome, ← AList.lookup_isSome, lookup_dropConnections]
  by_cases hk : k ∈ ds <;> simp [hk]

/-- **What `drop_connections` removes.** The entries it removes are the subscriptions whose
pubkey is in its list: when all of them are subscribed, as many as the list's distinct
pubkeys. -/
theorem removed_dropConnections (ds : List Pubkey) (subs : PacketSubscriptions) (m : RelayerMetrics)
    (hds : ∀ pk ∈ ds, pk ∈ subs) :
    subs.entries.length - (dropConnections ds subs m).1.entries.length = ds.dedup.length := by
  have hleft := (keys_dropConnections_perm ds subs m).length_eq
  have hsplit := List.length_eq_length_filter_add (l := subs.keys) (· ∈ ds)
  have hin : (subs.keys.filter (· ∈ ds)).Perm ds.dedup :=
    (List.perm_ext_iff_of_nodup ((AList.keys_nodup _).filter _) (List.nodup_dedup ds)).mpr fun k => by
      rw [List.mem_filter, List.mem_dedup, decide_eq_true_iff]
      exact ⟨And.right, fun h => ⟨hds k h, h⟩⟩
  simp only [AList.keys, List.keys, List.length_map] at hleft hsplit hin ⊢
  have hnot : (subs.entries.map Sigma.fst).filter (fun k => !decide (k ∈ ds)) =
      (subs.entries.map Sigma.fst).filter (· ∉ ds) := by simp
  rw [hnot] at hsplit
  rw [hleft, ← hin.length_eq]
  omega

/-! ## The removal counter of the two arms -/

namespace Relayer

/-- The pubkeys the heartbeat arm disconnects are subscribed, each once. -/
theorem heartbeatSent_failed (r : Relayer) (res : Sender → TrySendResult) :
    (r.heartbeatSent res).failedForwards.Sublist r.packetSubscriptions.keys := by
  have hpairs : r.packetSubscriptions.pairs.map Prod.fst = r.packetSubscriptions.keys := by
    simp [PacketSubscriptions.pairs, AList.keys, List.keys]
  unfold heartbeatSent
  split
  · simp only [handleHeartbeat, sendHeartbeats_failedForwards, closedPubkeys]
    exact hpairs ▸ (List.filter_sublist _).map _
  · exact List.Sublist.refl _

/-- **The heartbeat arm counts what it removes.** Its list has no duplicate, and
`drop_connections` adds to `num_removed_connections` exactly the number of subscriptions it
removes. -/
theorem heartbeatArm_removed (r : Relayer) (res : Sender → TrySendResult) :
    (r.heartbeatSent res).failedForwards.Nodup ∧
      (r.heartbeatArm res).1.loop.metrics.numRemovedConnections =
        wrappingAdd (r.heartbeatSent res).metrics.numRemovedConnections
          (r.packetSubscriptions.entries.length -
            (r.heartbeatArm res).1.packetSubscriptions.entries.length) := by
  have hsub := heartbeatSent_failed r res
  have hnd := (AList.keys_nodup _).sublist hsub
  refine ⟨hnd, ?_⟩
  simp only [heartbeatArm]
  rw [removed_dropConnections _ _ _ fun pk h => AList.mem_keys.mp (hsub.subset h), hnd.dedup]
  rfl

end Relayer

/-- **A closed subscriber is counted once per chunk.** When every pubkey of its list is
subscribed, `drop_connections` removes as many subscriptions as the list has distinct pubkeys,
and adds the list's length to `num_removed_connections`. The heartbeat arm lists each
subscriber at most once, so it counts what it removes. The packet arm does not: one subscriber,
whose queue is closed; a packet batch of two packets, forwarded in chunks of one.
`forward_packets` pushes the subscriber's pubkey once per chunk, and `drop_connections` adds `2`
to `num_removed_connections` for the one subscription it removes. -/
theorem removed_connections_overcount :
    (∀ (ds : List Pubkey) (subs : PacketSubscriptions) (m : RelayerMetrics),
      (∀ pk ∈ ds, pk ∈ subs) →
      subs.entries.length - (dropConnections ds subs m).1.entries.length = ds.dedup.length ∧
        (dropConnections ds subs m).2.numRemovedConnections =
          wrappingAdd m.numRemovedConnections ds.length) ∧
    (∀ (r : Relayer) (res : Sender → TrySendResult),
      (r.heartbeatSent res).failedForwards.Nodup ∧
        (r.heartbeatArm res).1.loop.metrics.numRemovedConnections =
          wrappingAdd (r.heartbeatSent res).metrics.numRemovedConnections
            (r.packetSubscriptions.entries.length -
              (r.heartbeatArm res).1.packetSubscriptions.entries.length)) ∧
    (let v : Pubkey := ⟨List.replicate 32 1, rfl⟩
     let p : Packet := ⟨[0], ⟨1, .V4 0, 0, 0⟩⟩
     let cfg : RelayerConfig := ⟨0, [], 1, true, ⟨fun _ => none, fun p => some ⟨p.buffer, p.meta⟩⟩⟩
     let r := (Relayer.init.run cfg
       [.healthWrite .Healthy, .subscribe (some v), .subscribeSend 0, .subscription]).1
     let r' := (r.step cfg (.packets (.ok [[p, p]]) ∅ fun _ _ => .closed)).1
     ((forwardPackets cfg (.ok [[p, p]]) r.packetSubscriptions r.loop.slotLeaders r.loop.metrics ∅
       fun _ _ => .closed).map (·.failedForwards)) = .ok [v, v] ∧
     r.packetSubscriptions.entries.length = 1 ∧ r'.packetSubscriptions.entries.length = 0 ∧
     r'.loop.metrics.numRemovedConnections = r.loop.metrics.numRemovedConnections + 2) :=
  ⟨fun ds subs m hds => ⟨removed_dropConnections ds subs m hds, rfl⟩, Relayer.heartbeatArm_removed,
    by decide⟩

/-! ## The queued-depth metric -/

/-- The messages queued on each subscriber's channel at one moment, at most the channel's
bound; the subscribers' streams take them off concurrently. -/
structure QueueState where
  queued : Sender → Nat
  queued_le : ∀ s, queued s ≤ s.maxCapacity

/-- tokio's `Sender::capacity`: the permits left, the bound minus the queued messages (the
relayer never reserves a permit). -/
def QueueState.capacity (q : QueueState) (s : Sender) : Nat := s.maxCapacity - q.queued s

namespace Relayer

/-- The counters the metrics arm reports, before it resets them. -/
def metricsReport (r : Relayer) (capacity : Sender → Nat) : RelayerMetrics :=
  ({ r.loop.metrics with numCurrentConnections := r.packetSubscriptions.entries.length }
    ).updatePacketSubscriptionTotalCapacity r.packetSubscriptions capacity

/-- Every sender the relayer holds has the bound of `subscribe_packets`. -/
def Capped (r : Relayer) : Prop := ∀ s ∈ r.allSenders, s.maxCapacity = subscriberQueueCapacity

variable {cfg : RelayerConfig}

/-- A step keeps some of the senders, or adds the one of a `channel(SUBSCRIBER_QUEUE_CAPACITY)`. -/
theorem Capped.step {r : Relayer} (h : r.Capped) (e : Event) : (r.step cfg e).1.Capped := by
  rcases @step_allSenders cfg r e with ⟨hs, -⟩ | ⟨pk, -, -, hs, -⟩
  · exact fun s hm => h s (hs.subset hm)
  · intro s hm
    rw [hs] at hm
    rcases List.mem_append.mp hm with hm | hm
    · exact h s hm
    · rw [List.mem_singleton.mp hm]

theorem Capped.run {r : Relayer} (h : r.Capped) (evs : List Event) : (r.run cfg evs).1.Capped := by
  induction evs generalizing r with
  | nil => exact h
  | cons e evs ih => exact ih (h.step e)

/-- A registered sender is one the relayer holds. -/
theorem mem_registeredSenders {r : Relayer} {pk : Pubkey} {s : Sender}
    (h : r.packetSubscriptions.lookup pk = some s) : s ∈ r.allSenders :=
  List.mem_append_left _ (List.mem_map.mpr ⟨⟨pk, s⟩, AList.mem_lookup_iff.mp h, rfl⟩)

end Relayer

/-- **The queued-depth metric does not underflow.** In every reachable state, every registered
sender was made by a `subscribe_packets` (`channel(..)` number below the next) with the bound
`SUBSCRIBER_QUEUE_CAPACITY`, so whatever the subscribers' queues hold, no `capacity()` exceeds
`SUBSCRIBER_QUEUE_CAPACITY`, and the metric is the number of queued messages. -/
theorem queued_depth_exact (cfg : RelayerConfig) (evs : List Event) (q : QueueState) :
    let r := (Relayer.init.run cfg evs).1
    (∀ pk s, r.packetSubscriptions.lookup pk = some s →
      s.maxCapacity = subscriberQueueCapacity ∧ s.id < r.nextChannel ∧
        q.capacity s ≤ subscriberQueueCapacity) ∧
    (r.metricsReport q.capacity).packetSubscriptionsTotalQueued =
      (r.packetSubscriptions.pairs.map fun p => q.queued p.2).sum := by
  intro r
  have hcap : r.Capped := (show Relayer.init.Capped from nofun).run evs
  have hwf := @Relayer.Wf.run cfg _ Relayer.Wf.init evs
  refine ⟨fun pk s h => ?_, ?_⟩
  · have hs := Relayer.mem_registeredSenders h
    exact ⟨hcap s hs, hwf.senders_lt s hs, hcap s hs ▸ Nat.sub_le _ _⟩
  · simp only [Relayer.metricsReport, RelayerMetrics.updatePacketSubscriptionTotalCapacity,
      PacketSubscriptions.pairs, List.map_map]
    congr 1
    refine List.map_congr_left fun e he => ?_
    have hmax := hcap e.2 (Relayer.mem_registeredSenders (AList.mem_lookup_iff.mpr he))
    have hle := q.queued_le e.2
    simp only [Function.comp, QueueState.capacity, hmax] at hle ⊢
    omega

end JitoRelayer
