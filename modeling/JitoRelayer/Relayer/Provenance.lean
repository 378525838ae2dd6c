import JitoRelayer.Relayer.Routing
import JitoRelayer.Relayer.Fanout

/-!
# Where what the relayer sends comes from

Properties of every run of the relayer, traced back along the run to the step that caused them:
the `subscribe_packets` call that opened a stream, and the packet batch a forwarded packet came
from.

* `mem_run_attempts`: a `try_send` of a run is made by one of its steps, from the state the
  steps before it left.
* `step_holds`: a step holds only the senders the state held before, and the one that a
  `subscribe_packets` reading `Healthy` creates.
* `held_opened_by_subscribe`: every sender the relayer holds (registered, queued on the
  subscription channel, or held by a pending call) was created by a `subscribe_packets` call for
  that very pubkey that read `Healthy`, with the id that call drew.
* `try_send_to_opened_stream`: every `try_send` of a run, `Batch` or `Heartbeat`, goes to a
  stream that its own validator opened while the relayer was healthy.
* `forwarded_packet_compliant`: every packet of every `Batch` sent was received by the packet
  arm that sent it, is not discarded, and with a denylist decodes to a transaction that
  `is_tx_ofac_related` clears against the lookup tables that arm read.
-/

namespace JitoRelayer

namespace Relayer

variable {cfg : RelayerConfig}

/-- A `try_send` of a run is made by one of its steps. -/
theorem mem_run_attempts {r : Relayer} {evs : List Event} {a : Attempt}
    (ha : a ∈ (r.run cfg evs).2) :
    ∃ pre e post, evs = pre ++ e :: post ∧ a ∈ ((r.run cfg pre).1.step cfg e).2 := by
  induction evs generalizing r with
  | nil => cases ha
  | cons e evs ih =>
    rcases List.mem_append.mp ha with ha | ha
    · exact ⟨[], e, evs, rfl, ha⟩
    · obtain ⟨pre, e', post, rfl, hpre⟩ := ih ha
      exact ⟨e :: pre, e', post, rfl, hpre⟩

/-! ## Who opened a stream -/

/-- `r` holds the sender `s` for `v`: registered for it, queued on the subscription channel, or
held by a pending `subscribe_packets` call. -/
def Holds (r : Relayer) (v : Pubkey) (s : Sender) : Prop :=
  r.packetSubscriptions.lookup v = some s ∨ ⟨v, s⟩ ∈ r.subscriptionChannel ∨ ⟨v, s⟩ ∈ r.pending

theorem lookup_of_lookup_dropConnections {ds : List Pubkey} {subs : PacketSubscriptions}
    {m : RelayerMetrics} {v : Pubkey} {s : Sender} (h : (dropConnections ds subs m).1.lookup v = some s) :
    subs.lookup v = some s := by
  rw [lookup_dropConnections] at h
  split at h
  · cases h
  · exact h

theorem subscriptionArm_channel (r : Relayer) :
    r.subscriptionArm.subscriptionChannel = r.subscriptionChannel.tail ∧
      r.subscriptionArm.pending = r.pending := by
  unfold subscriptionArm
  split
  · rename_i hc; exact ⟨by rw [hc]; rfl, rfl⟩
  · rename_i sub rest hc
    obtain ⟨m', hm⟩ := handleSubscription_ok sub r.packetSubscriptions r.loop.metrics
    rw [hm, hc]
    exact ⟨rfl, rfl⟩

/-- The subscription arm holds what it held: it moves the oldest queued subscription into the
map. -/
theorem Holds.of_subscriptionArm {r : Relayer} {v : Pubkey} {s : Sender}
    (h : r.subscriptionArm.Holds v s) : r.Holds v s := by
  obtain ⟨hch, hp⟩ := subscriptionArm_channel r
  rcases h with h | h | h
  · rw [subscriptionArm_lookup] at h
    split at h
    · exact .inl h
    · rename_i sub rest hc
      split at h
      · rename_i hv
        cases h
        exact .inr (.inl (by rw [hc, hv]; exact List.mem_cons_self _ _))
      · exact .inl h
  · rw [hch] at h
    exact .inr (.inl (List.mem_of_mem_tail h))
  · rw [hp] at h
    exact .inr (.inr h)

/-- **What a step holds.** A sender held after a step was held before, or is the new one of a
`subscribe_packets` for its pubkey that read `Healthy`. -/
theorem step_holds {r : Relayer} {e : Event} {v : Pubkey} {s : Sender}
    (h : (r.step cfg e).1.Holds v s) :
    r.Holds v s ∨ (e = .subscribe (some v) ∧ r.healthState = .Healthy ∧
      s = ⟨r.nextChannel, subscriberQueueCapacity⟩) := by
  have hs := step_shape cfg r e
  generalize r.step cfg e = p at hs h
  cases hs with
  | slot => left; unfold slotArm at h; split at h <;> exact h
  | packets =>
    left
    unfold packetArm at h
    split at h
    · dsimp only [Holds] at h ⊢
      exact h.imp_left lookup_of_lookup_dropConnections
    · exact h
  | subscription => exact .inl h.of_subscriptionArm
  | heartbeat =>
    dsimp only [Holds, heartbeatArm] at h ⊢
    exact .inl (h.imp_left lookup_of_lookup_dropConnections)
  | @subscribe pk hh =>
    rcases h with h | h | h
    · exact .inl (.inl h)
    · exact .inl (.inr (.inl h))
    · rcases List.mem_append.mp h with h | h
      · exact .inl (.inr (.inr h))
      · simp only [List.mem_singleton, Subscription.mk.injEq] at h
        obtain ⟨rfl, rfl⟩ := h
        exact .inr ⟨rfl, hh, rfl⟩
  | subscribeDropped => exact .inl (h.imp_right (Or.imp_right List.mem_of_mem_erase))
  | subscribeSent hsub =>
    left
    rcases h with h | h | h
    · exact .inl h
    · rcases List.mem_append.mp h with h | h
      · exact .inr (.inl h)
      · exact .inr (.inr (by rw [List.mem_singleton.mp h]; exact List.get?_mem hsub))
    · exact .inr (.inr (List.mem_of_mem_erase h))
  | _ => exact .inl h

/-- **Every stream was opened by its validator.** In every run, a sender the relayer holds for
`v`, registered, queued or pending, was created by a `subscribe_packets` call for `v` that read
`Healthy`, and is the channel that call's `channel(..)` made. -/
theorem held_opened_by_subscribe (evs : List Event) {v : Pubkey} {s : Sender}
    (h : (Relayer.init.run cfg evs).1.Holds v s) :
    ∃ pre post, evs = pre ++ .subscribe (some v) :: post ∧
      (Relayer.init.run cfg pre).1.healthState = .Healthy ∧
      s = ⟨(Relayer.init.run cfg pre).1.nextChannel, subscriberQueueCapacity⟩ := by
  induction evs using List.reverseRecOn with
  | nil => simp [Holds, Relayer.init, Relayer.run] at h
  | append_singleton evs e ih =>
    rw [run_snoc] at h
    rcases step_holds h with h | ⟨rfl, hh, rfl⟩
    · obtain ⟨pre, post, rfl, hpre⟩ := ih h
      exact ⟨pre, post ++ [e], by simp, hpre⟩
    · exact ⟨evs, [], rfl, hh, rfl⟩

/-- **No stream gets what its validator did not ask for.** Every `try_send` of a run, `Batch` or
`Heartbeat`, goes to the channel that a `subscribe_packets` call for the attempt's own pubkey
created, at a moment the relayer read `Healthy`. -/
theorem try_send_to_opened_stream (evs : List Event) {a : Attempt}
    (ha : a ∈ (Relayer.init.run cfg evs).2) :
    ∃ pre post, evs = pre ++ .subscribe (some a.pubkey) :: post ∧
      (Relayer.init.run cfg pre).1.healthState = .Healthy ∧
      a.sender = ⟨(Relayer.init.run cfg pre).1.nextChannel, subscriberQueueCapacity⟩ := by
  obtain ⟨pre, e, post, rfl, hstep⟩ := mem_run_attempts ha
  obtain ⟨pre', post', rfl, hh, hs⟩ :=
    held_opened_by_subscribe pre (.inl (mem_step_attempts hstep).2.1)
  exact ⟨pre', post' ++ e :: post, by simp, hh, hs⟩

/-- A validator subscribes while the relayer is healthy, and its stream gets the first
heartbeat. -/
theorem try_send_to_opened_stream_heartbeat :
    let v : Pubkey := ⟨List.replicate 32 1, rfl⟩
    let cfg : RelayerConfig := ⟨0, [], 1, false, ⟨fun _ => none, fun _ => none⟩⟩
    let evs : List Event :=
      [.healthWrite .Healthy, .subscribe (some v), .subscribeSend 0, .subscription, .heartbeat fun _ => .ok]
    let a : Attempt := ⟨v, ⟨0, subscriberQueueCapacity⟩, .heartbeat 0, .ok⟩
    a ∈ (Relayer.init.run cfg evs).2 ∧
      ∃ pre post, evs = pre ++ .subscribe (some a.pubkey) :: post ∧
        (Relayer.init.run cfg pre).1.healthState = .Healthy ∧
        a.sender = ⟨(Relayer.init.run cfg pre).1.nextChannel, subscriberQueueCapacity⟩ :=
  ⟨by decide, try_send_to_opened_stream _ (by decide)⟩

/-! ## What a forwarded packet is -/

/-- A packet of a chunk is a packet of the chunked list. -/
theorem mem_of_mem_chunks {α : Type} {b : Nat} (hb : 0 < b) {l c : List α} (hc : c ∈ chunks b l)
    {x : α} (hx : x ∈ c) : x ∈ l := by
  rw [← (isSplit_chunks hb l.length l le_rfl).1]
  exact List.mem_flatten.mpr ⟨c, hc, hx⟩

/-- A packet `forward_packets` collects is the conversion of a received packet that is not
discarded and, with a denylist, decodes to a transaction that `is_tx_ofac_related` clears. -/
theorem mem_forwardablePackets {codec : Codec} {ofacAddresses : List Pubkey}
    {cache : LookupTableCache} {batches : List (List Packet)} {pp : ProtoPacket}
    (h : pp ∈ forwardablePackets codec ofacAddresses cache batches) :
    ∃ p ∈ batches.flatten, p.meta.discard = false ∧ codec.toProto p = some pp ∧
      (ofacAddresses ≠ [] → ∃ tx, codec.deserialize p = some tx ∧
        isTxOfacRelated tx ofacAddresses cache = false) := by
  rw [forwardablePackets_eq_spec, specForwardedPackets] at h
  obtain ⟨p, hp, hpp⟩ := List.mem_filterMap.mp h
  obtain ⟨hmem, hkeep⟩ := List.mem_filter.mp hp
  rw [Bool.and_eq_true, Bool.not_eq_true'] at hkeep
  refine ⟨p, hmem, hkeep.1, hpp, fun hne => ?_⟩
  have hkept := hkeep.2
  cases hd : codec.deserialize p with
  | none => simp [ofacKept, hd, List.isEmpty_iff, hne] at hkept
  | some tx => exact ⟨tx, rfl, by simpa [ofacKept, hd, List.isEmpty_iff, hne] using hkept⟩

/-- A `Batch` of a step is sent by a packet arm that received packet batches; it holds at most
`validator_packet_batch_size` packets, all among those `forward_packets` collected. -/
theorem step_batch_packets {r : Relayer} {e : Event} {a : Attempt} {b : ProtoPacketBatch}
    (ha : a ∈ (r.step cfg e).2) (hb : a.msg = .batch b) :
    ∃ batches cache res, e = .packets (.ok batches) cache res ∧
      b.packets.length ≤ cfg.validatorPacketBatchSize ∧
      ∀ pp ∈ b.packets, pp ∈ forwardablePackets cfg.codec cfg.ofacAddresses cache batches := by
  have hs := step_shape cfg r e
  generalize r.step cfg e = p at hs ha
  cases hs with
  | @packets maybe cache res hr =>
    unfold packetArm at ha
    split at ha
    · rename_i sent hf
      obtain ⟨batches, rfl, hsize, rfl⟩ := forwardPackets_ok hf
      obtain ⟨-, b', hb', hmsg⟩ := (sendBatches_spec res _ 0 _ _).1 a ha
      rw [hb, Msg.batch.injEq] at hmsg
      subst hmsg
      obtain ⟨c, hc, rfl⟩ := List.mem_map.mp hb'
      have hb0 := Nat.pos_of_ne_zero hsize
      exact ⟨batches, cache, res, rfl, ((isSplit_chunks hb0 _ _ le_rfl).2.1 c hc).2,
        fun pp hp => mem_of_mem_chunks hb0 hc hp⟩
    · simp at ha
  | heartbeat hr =>
    rw [heartbeatArm_attempts] at ha
    split at ha
    · obtain ⟨p, -, rfl⟩ := List.mem_map.mp ha
      simp [heartbeatAttempt] at hb
    · simp at ha
  | _ => simp at ha

/-- **No packet is forwarded unfiltered.** In every run, from every state, each packet of each
`Batch` the relayer tries to send is the conversion of a packet that the packet arm making the
`try_send` received; that packet is not discarded and, when a denylist is configured, decodes
to a transaction that `is_tx_ofac_related` clears against the lookup tables that arm read. -/
theorem forwarded_packet_compliant (r : Relayer) (evs : List Event) {a : Attempt}
    {b : ProtoPacketBatch} (ha : a ∈ (r.run cfg evs).2) (hb : a.msg = .batch b) {pp : ProtoPacket}
    (hp : pp ∈ b.packets) :
    ∃ pre post batches cache res, evs = pre ++ .packets (.ok batches) cache res :: post ∧
      ∃ p ∈ batches.flatten, p.meta.discard = false ∧ cfg.codec.toProto p = some pp ∧
        (cfg.ofacAddresses ≠ [] → ∃ tx, cfg.codec.deserialize p = some tx ∧
          isTxOfacRelated tx cfg.ofacAddresses cache = false) := by
  obtain ⟨pre, e, post, rfl, hstep⟩ := mem_run_attempts ha
  obtain ⟨batches, cache, res, rfl, -, hpk⟩ := step_batch_packets hstep hb
  exact ⟨pre, post, batches, cache, res, rfl, mem_forwardablePackets (hpk pp hp)⟩

/-- One packet, forwarded to the only subscriber in a chunk of one. -/
theorem forwarded_packet_compliant_one_packet :
    let v : Pubkey := ⟨List.replicate 32 1, rfl⟩
    let p : Packet := ⟨[0], ⟨1, .V4 0, 0, 0⟩⟩
    let pp : ProtoPacket := ⟨[0], ⟨1, .V4 0, 0, 0⟩⟩
    let cfg : RelayerConfig := ⟨0, [], 1, true, ⟨fun _ => none, fun p => some ⟨p.buffer, p.meta⟩⟩⟩
    let evs : List Event := [.healthWrite .Healthy, .subscribe (some v), .subscribeSend 0,
      .subscription, .packets (.ok [[p]]) ∅ fun _ _ => .ok]
    let a : Attempt := ⟨v, ⟨0, subscriberQueueCapacity⟩, .batch ⟨[pp]⟩, .ok⟩
    a ∈ (Relayer.init.run cfg evs).2 ∧ a.msg = .batch ⟨[pp]⟩ ∧ pp ∈ [pp] ∧
      ∃ pre post batches cache res, evs = pre ++ .packets (.ok batches) cache res :: post ∧
        ∃ p ∈ batches.flatten, p.meta.discard = false ∧ cfg.codec.toProto p = some pp ∧
          (cfg.ofacAddresses ≠ [] → ∃ tx, cfg.codec.deserialize p = some tx ∧
            isTxOfacRelated tx cfg.ofacAddresses cache = false) := by
  intro v p pp cfg evs a
  have ha : a ∈ (Relayer.init.run cfg evs).2 := by decide
  exact ⟨ha, rfl, List.mem_singleton_self _,
    forwarded_packet_compliant Relayer.init evs ha rfl (List.mem_singleton_self _)⟩

end Relayer

end JitoRelayer
