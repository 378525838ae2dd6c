import JitoRelayer.Relayer.Provenance

/-!
# The counters of the `try_send`s (`relayer/src/relayer.rs`)

`forward_packets` counts each `Batch` it enqueues on a subscriber's queue in that validator's
`num_packets_forwarded`, and each one that finds the queue full in its `num_packets_dropped`,
both with `saturating_add_assign!`; `handle_heartbeat` counts each `Heartbeat` that finds a
queue full in `num_try_send_channel_full`. The metrics arm reports the counters and starts over
from `RelayerMetrics::new`.

* `accountAttempt`: what one `try_send` counts; `sendBatches_metrics`,
  `sendHeartbeats_metrics`: the send loops count exactly their `try_send`s, in order.
* `step_trySendCounters`, `run_trySendCounters`: a step, and a run without a metrics arm, move
  these counters as their `try_send`s count.
* `try_send_counters_since_reset`: from counters at zero, each validator's entry exists exactly
  when a `Batch` to it was enqueued or dropped, and holds the packets enqueued and dropped,
  saturated at `u64::MAX`; `num_try_send_channel_full` counts the full `Heartbeat`s and no
  full `Batch`.
-/

namespace JitoRelayer

/-- What one `try_send` counts: an enqueued `Batch` its packets as forwarded to the pubkey, a
`Batch` that finds the queue full its packets as dropped, a `Heartbeat` that finds it full one
`num_try_send_channel_full`. -/
def accountAttempt (m : RelayerMetrics) (a : Attempt) : RelayerMetrics :=
  match a.msg, a.result with
  | .batch b, .ok => m.incrementPacketsForwarded a.pubkey b.packets.length
  | .batch b, .full => m.incrementPacketsDropped a.pubkey b.packets.length
  | .heartbeat _, .full => { m with numTrySendChannelFull := wrappingAdd m.numTrySendChannelFull 1 }
  | _, _ => m

/-- The counters the `try_send`s update. -/
def RelayerMetrics.trySendCounters (m : RelayerMetrics) :
    AList (fun _ : Pubkey => PacketForwardStats) × Nat :=
  (m.packetStatsPerValidator, m.numTrySendChannelFull)

theorem sendBatch_metrics (res : Sender → TrySendResult) (b : ProtoPacketBatch)
    (ss : List (Pubkey × Sender)) (m : RelayerMetrics) :
    (sendBatch res b ss m).metrics = (sendBatch res b ss m).attempts.foldl accountAttempt m := by
  induction ss generalizing m with
  | nil => rfl
  | cons p ss ih =>
    obtain ⟨pk, s⟩ := p
    simp only [sendBatch]
    split <;> rename_i h <;> simp [h, ih, accountAttempt]

theorem sendBatches_metrics (res : Nat → Sender → TrySendResult) (ss : List (Pubkey × Sender))
    (i : Nat) (bs : List ProtoPacketBatch) (m : RelayerMetrics) :
    (sendBatches res ss i bs m).metrics = (sendBatches res ss i bs m).attempts.foldl accountAttempt m := by
  induction bs generalizing i m with
  | nil => rfl
  | cons b bs ih =>
    simp only [sendBatches]
    split
    · exact ih (i + 1) m
    · rw [List.foldl_append, ← sendBatch_metrics]
      exact ih (i + 1) _

theorem sendHeartbeats_metrics (res : Sender → TrySendResult) (count : Nat)
    (ss : List (Pubkey × Sender)) (m : RelayerMetrics) :
    (sendHeartbeats res count ss m).metrics =
      (sendHeartbeats res count ss m).attempts.foldl accountAttempt m := by
  induction ss generalizing m with
  | nil => rfl
  | cons p ss ih =>
    obtain ⟨pk, s⟩ := p
    simp only [sendHeartbeats]
    split <;> rename_i h <;> simp [h, ih, accountAttempt]

/-- The counters of one `try_send` depend only on the counters before it. -/
theorem trySendCounters_foldl {m m' : RelayerMetrics} (h : m.trySendCounters = m'.trySendCounters)
    (log : List Attempt) :
    (log.foldl accountAttempt m).trySendCounters = (log.foldl accountAttempt m').trySendCounters := by
  induction log generalizing m m' with
  | nil => exact h
  | cons a log ih =>
    apply ih
    simp only [RelayerMetrics.trySendCounters, Prod.mk.injEq] at h
    unfold accountAttempt
    split <;> simp [RelayerMetrics.trySendCounters, RelayerMetrics.incrementPacketsForwarded,
      RelayerMetrics.incrementPacketsDropped, h.1, h.2]

theorem handleSubscription_trySendCounters {sub : Subscription} {subs subs' : PacketSubscriptions}
    {m m' : RelayerMetrics} (h : handleSubscription (.ok sub) subs m = .ok (subs', m')) :
    m'.trySendCounters = m.trySendCounters := by
  obtain ⟨pk, s⟩ := sub
  simp only [handleSubscription] at h
  split at h <;> cases h <;> rfl

/-! ## The counters, from the `try_send`s -/

/-- The packets of the `Batch`es of `log` to `pk` whose `try_send` returned `result`. -/
def batchPacketsTo (pk : Pubkey) (result : TrySendResult) (log : List Attempt) : Nat :=
  (log.map fun a => if a.pubkey = pk ∧ a.result = result then
    (a.msg.batch?.map (·.packets.length)).getD 0 else 0).sum

/-- Some `Batch` of `log` to `pk` was enqueued, or found the queue full. -/
def batchReached (pk : Pubkey) (log : List Attempt) : Bool :=
  log.any fun a => a.pubkey = pk && a.result != .closed && a.msg.batch?.isSome

/-- What one `try_send` does to the entry of `pk`. -/
theorem lookup_accountAttempt (m : RelayerMetrics) (a : Attempt) (pk : Pubkey) :
    (accountAttempt m a).packetStatsPerValidator.lookup pk =
      if a.pubkey = pk then
        match a.msg, a.result with
        | .batch b, .ok => some ((m.packetStatsPerValidator.lookup pk).elim ⟨b.packets.length, 0⟩
            fun e => { e with numPacketsForwarded := saturatingAdd e.numPacketsForwarded b.packets.length })
        | .batch b, .full => some ((m.packetStatsPerValidator.lookup pk).elim ⟨0, b.packets.length⟩
            fun e => { e with numPacketsDropped := saturatingAdd e.numPacketsDropped b.packets.length })
        | _, _ => m.packetStatsPerValidator.lookup pk
      else m.packetStatsPerValidator.lookup pk := by
  obtain ⟨pk', s, msg, result⟩ := a
  by_cases hv : pk' = pk
  · subst hv
    cases msg <;> cases result <;>
      simp [accountAttempt, RelayerMetrics.incrementPacketsForwarded,
        RelayerMetrics.incrementPacketsDropped] <;> split <;> simp [*]
  · rw [if_neg hv]
    cases msg <;> cases result <;>
      simp [accountAttempt, RelayerMetrics.incrementPacketsForwarded,
        RelayerMetrics.incrementPacketsDropped] <;> split <;> simp [AList.lookup_insert_ne (Ne.symm hv)]

theorem batchReached_snoc (pk : Pubkey) (log : List Attempt) (a : Attempt) :
    batchReached pk (log ++ [a]) =
      (batchReached pk log || (a.pubkey = pk && a.result != .closed && a.msg.batch?.isSome)) := by
  simp [batchReached]

theorem batchPacketsTo_snoc (pk : Pubkey) (result : TrySendResult) (log : List Attempt)
    (a : Attempt) :
    batchPacketsTo pk result (log ++ [a]) = batchPacketsTo pk result log +
      if a.pubkey = pk ∧ a.result = result then (a.msg.batch?.map (·.packets.length)).getD 0
      else 0 := by
  induction log with
  | nil => simp [batchPacketsTo]
  | cons a' log ih =>
    simp only [batchPacketsTo, List.cons_append, List.map_cons, List.sum_cons] at ih ⊢
    rw [ih, Nat.add_assoc]

/-- Before any `Batch` to `pk` was enqueued or dropped, none of its packets is counted. -/
theorem batchPacketsTo_eq_zero {pk : Pubkey} {result : TrySendResult} (hres : result ≠ .closed)
    {log : List Attempt} (h : batchReached pk log = false) : batchPacketsTo pk result log = 0 := by
  induction log with
  | nil => rfl
  | cons a log ih =>
    rw [batchReached, List.any_cons] at h
    obtain ⟨h1, h2⟩ := Bool.or_eq_false_iff.mp h
    simp only [batchPacketsTo, List.map_cons, List.sum_cons] at ih ⊢
    rw [ih h2, Nat.add_zero]
    split
    · rename_i ha
      cases hb : a.msg.batch? with
      | none => rfl
      | some b => simp [ha.1, ha.2, hres, hb] at h1
    · rfl

/-- **The per-validator counters are the packets of its `Batch`es.** From an empty table, after
any `try_send`s, of `Batch`es of at most `u64::MAX` packets, the entry of `pk` exists exactly
when a `Batch` to `pk` was enqueued or found the queue full, and holds the packets enqueued and
those dropped, each saturated at `u64::MAX`. -/
theorem lookup_foldl_accountAttempt (pk : Pubkey) {m : RelayerMetrics}
    (hm : m.packetStatsPerValidator = ∅) {log : List Attempt}
    (hlen : ∀ a ∈ log, ∀ b, a.msg = .batch b → b.packets.length ≤ u64Max) :
    (log.foldl accountAttempt m).packetStatsPerValidator.lookup pk =
      if batchReached pk log then
        some ⟨min (batchPacketsTo pk .ok log) u64Max, min (batchPacketsTo pk .full log) u64Max⟩
      else none := by
  induction log using List.reverseRecOn with
  | nil => simp [hm, batchReached]
  | append_singleton log a ih =>
    rw [List.foldl_append, List.foldl_cons, List.foldl_nil, lookup_accountAttempt,
      ih fun a' ha' => hlen a' (List.mem_append_left _ ha'), batchReached_snoc,
      batchPacketsTo_snoc, batchPacketsTo_snoc]
    obtain ⟨pk', s, msg, result⟩ := a
    by_cases hv : pk' = pk
    · subst hv
      cases msg with
      | heartbeat c =>
        simp only [if_true, Msg.batch?, Option.isSome_none, Bool.and_false, Bool.or_false,
          Option.map_none', Option.getD_none, ite_self, Nat.add_zero]
      | batch b =>
        have hn := hlen _ (List.mem_append_right _ (List.mem_singleton_self _)) b rfl
        have hsat (a : Nat) : min (min a u64Max + b.packets.length) u64Max =
            min (a + b.packets.length) u64Max := by omega
        cases hr : batchReached pk' log <;> cases result <;>
          simp only [hr, batchPacketsTo_eq_zero, hsat, saturatingAdd, Nat.min_eq_left hn,
            Nat.zero_min, if_true, if_false, Msg.batch?, Option.isSome_some, Option.map_some',
            Option.getD_some, Option.elim, reduceCtorEq, Nat.zero_add, Nat.add_zero, and_self,
            and_false, Bool.false_or, Bool.true_or, Bool.and_true, Bool.true_and, decide_True,
            bne_iff_ne, bne_self_eq_false, ne_eq, not_false_eq_true, Bool.false_eq_true]
    · simp only [if_neg hv, hv, decide_False, Bool.false_and, Bool.or_false, false_and, if_false,
        Nat.add_zero]

/-- From zero, `num_try_send_channel_full` counts the `Heartbeat`s that found a queue full,
wrapping at `2^64`; no `Batch` counts. -/
theorem numTrySendChannelFull_foldl {m : RelayerMetrics} (hm : m.numTrySendChannelFull = 0)
    (log : List Attempt) :
    (log.foldl accountAttempt m).numTrySendChannelFull =
      (log.countP fun a => a.result == .full && a.msg.batch?.isNone) % 2 ^ 64 := by
  induction log using List.reverseRecOn with
  | nil => simp [hm]
  | append_singleton log a ih =>
    rw [List.foldl_append, List.foldl_cons, List.foldl_nil, List.countP_append]
    obtain ⟨pk, s, msg, result⟩ := a
    cases msg <;> cases result <;>
      simp [accountAttempt, Msg.batch?, RelayerMetrics.incrementPacketsForwarded,
        RelayerMetrics.incrementPacketsDropped, wrappingAdd, ih]

namespace Relayer

variable {cfg : RelayerConfig}

/-- **Step lemma.** Every step but the metrics arm moves the `try_send` counters as its own
`try_send`s count. -/
theorem step_trySendCounters (r : Relayer) {e : Event} (he : e ≠ .metrics) :
    (r.step cfg e).1.loop.metrics.trySendCounters =
      ((r.step cfg e).2.foldl accountAttempt r.loop.metrics).trySendCounters := by
  have hs := step_shape cfg r e
  generalize r.step cfg e = p at hs
  cases hs with
  | @slot maybeSlot => cases maybeSlot <;> rfl
  | packets =>
    unfold packetArm
    split
    · rename_i sent hf
      obtain ⟨_, -, -, rfl⟩ := forwardPackets_ok hf
      simp only [dropConnections, RelayerMetrics.trySendCounters]
      rw [sendBatches_metrics]
    · rfl
  | subscription =>
    unfold subscriptionArm
    split
    · rfl
    · split
      · rename_i hsub
        exact handleSubscription_trySendCounters hsub
      · rfl
  | heartbeat =>
    simp only [heartbeatArm, heartbeatSent]
    split
    · simp only [handleHeartbeat, dropConnections, RelayerMetrics.trySendCounters]
      rw [sendHeartbeats_metrics]
    · rfl
  | metrics => exact absurd rfl he
  | _ => rfl

/-- **Run lemma.** A run without a metrics arm moves the `try_send` counters as its `try_send`s
count, in order. -/
theorem run_trySendCounters (r : Relayer) {evs : List Event} (hevs : ∀ e ∈ evs, e ≠ .metrics) :
    (r.run cfg evs).1.loop.metrics.trySendCounters =
      ((r.run cfg evs).2.foldl accountAttempt r.loop.metrics).trySendCounters := by
  induction evs generalizing r with
  | nil => rfl
  | cons e evs ih =>
    simp only [run, List.foldl_append]
    rw [ih _ fun e' he' => hevs e' (List.mem_cons_of_mem _ he')]
    exact trySendCounters_foldl (step_trySendCounters r (hevs e (List.mem_cons_self _ _))) _

/-- A `Batch` of a run holds at most `validator_packet_batch_size` packets. -/
theorem run_batch_length (r : Relayer) (evs : List Event) {a : Attempt} {b : ProtoPacketBatch}
    (ha : a ∈ (r.run cfg evs).2) (hb : a.msg = .batch b) :
    b.packets.length ≤ cfg.validatorPacketBatchSize := by
  obtain ⟨pre, e, post, -, hstep⟩ := mem_run_attempts ha
  obtain ⟨_, _, _, _, hl, _⟩ := step_batch_packets hstep hb
  exact hl

/-- **The counters the metrics arm reports.** From `try_send` counters at zero (those of
`RelayerMetrics::new`: at the start, or right after a metrics arm), for every run without a
metrics arm and a `validator_packet_batch_size` within `u64`: each validator has an entry exactly
when a `Batch` to it was enqueued or found its queue full, holding the packets enqueued and
those dropped, each saturated at `u64::MAX`; and `num_try_send_channel_full` is the number of
`Heartbeat`s that found a queue full, modulo `2^64`: a `Batch` that finds a queue full counts
only in its validator's `num_packets_dropped`. -/
theorem try_send_counters_since_reset (r : Relayer)
    (hstats : r.loop.metrics.packetStatsPerValidator = ∅) (hfull : r.loop.metrics.numTrySendChannelFull = 0)
    (hsize : cfg.validatorPacketBatchSize ≤ u64Max) (evs : List Event) (hevs : ∀ e ∈ evs, e ≠ .metrics) :
    let log := (r.run cfg evs).2
    let m := (r.run cfg evs).1.loop.metrics
    (∀ pk, m.packetStatsPerValidator.lookup pk =
      if batchReached pk log then
        some ⟨min (batchPacketsTo pk .ok log) u64Max, min (batchPacketsTo pk .full log) u64Max⟩
      else none) ∧
    m.numTrySendChannelFull = (log.countP fun a => a.result == .full && a.msg.batch?.isNone) % 2 ^ 64 := by
  have hc := @run_trySendCounters cfg r evs hevs
  simp only [RelayerMetrics.trySendCounters, Prod.mk.injEq] at hc
  refine ⟨fun pk => ?_, ?_⟩
  · rw [hc.1]
    exact lookup_foldl_accountAttempt pk hstats fun a ha b hb => (run_batch_length r evs ha hb).trans hsize
  · rw [hc.2]
    exact numTrySendChannelFull_foldl hfull _

/-- Two packets for the only subscriber, in chunks of one, both finding its queue full: its entry
counts two dropped packets, and `num_try_send_channel_full` stays at zero. -/
theorem try_send_counters_two_dropped :
    let v : Pubkey := ⟨List.replicate 32 1, rfl⟩
    let p : Packet := ⟨[0], ⟨1, .V4 0, 0, 0⟩⟩
    let cfg : RelayerConfig := ⟨0, [], 1, true, ⟨fun _ => none, fun p => some ⟨p.buffer, p.meta⟩⟩⟩
    let evs : List Event := [.healthWrite .Healthy, .subscribe (some v), .subscribeSend 0,
      .subscription, .packets (.ok [[p, p]]) ∅ fun _ _ => .full]
    Relayer.init.loop.metrics.packetStatsPerValidator = ∅ ∧
      Relayer.init.loop.metrics.numTrySendChannelFull = 0 ∧ cfg.validatorPacketBatchSize ≤ u64Max ∧
      (∀ e ∈ evs, e ≠ .metrics) ∧
      let log := (Relayer.init.run cfg evs).2
      let m := (Relayer.init.run cfg evs).1.loop.metrics
      (∀ pk, m.packetStatsPerValidator.lookup pk =
        if batchReached pk log then
          some ⟨min (batchPacketsTo pk .ok log) u64Max, min (batchPacketsTo pk .full log) u64Max⟩
        else none) ∧
      m.numTrySendChannelFull =
        (log.countP fun a => a.result == .full && a.msg.batch?.isNone) % 2 ^ 64 := by
  intro v p cfg evs
  have hevs : ∀ e ∈ evs, e ≠ .metrics := by simp [evs]
  exact ⟨rfl, rfl, by decide, hevs, try_send_counters_since_reset _ rfl rfl (by decide) _ hevs⟩

end Relayer

end JitoRelayer
