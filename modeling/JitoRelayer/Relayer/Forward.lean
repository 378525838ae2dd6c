import JitoRelayer.Relayer.ScheduleCache
import JitoRelayer.Ofac

/-!
# The functions of the relayer's event loop (`relayer/src/relayer.rs`)

The functions the arms of `RelayerImpl::run_event_loop` call, each with the data it reads and
writes: `forward_packets`, `handle_heartbeat`, `drop_connections`, `handle_subscription` and
`update_highest_slot`, and the `RelayerMetrics` counters they update.

A `try_send` to a subscriber's queue returns `Ok`, `Full` or `Closed` depending on what the
subscriber's stream does concurrently, so its outcome is an input: `forward_packets` takes one
per chunk index and sender, `handle_heartbeat` one per sender. Every `try_send` made is recorded
as an `Attempt`, in order; an `Ok` one is a message enqueued on the sender's queue.

Histograms, latencies and the channel-length statistics are only reported, and are left out; so
is the header timestamp of a `Batch`.
-/

namespace JitoRelayer

/-- `RelayerImpl::SUBSCRIBER_QUEUE_CAPACITY`. -/
def subscriberQueueCapacity : Nat := 50000

/-! ## Packets and messages -/

/-- `solana_sdk::packet::Meta`. -/
structure Meta where
  size : Nat
  addr : IpAddr
  port : Nat
  flags : BitVec 8
  deriving DecidableEq

/-- `Meta::discard`: the bit `PacketFlags::DISCARD`. -/
def Meta.discard (m : Meta) : Bool := m.flags.getLsbD 0

/-- `solana_sdk::packet::Packet`. -/
structure Packet where
  buffer : List UInt8
  meta : Meta
  deriving DecidableEq

/-- `jito_protos::packet::Packet`. -/
structure ProtoPacket where
  data : List UInt8
  meta : Meta
  deriving DecidableEq

/-- `jito_protos::packet::PacketBatch`. -/
structure ProtoPacketBatch where
  packets : List ProtoPacket
  deriving DecidableEq

/-- `subscribe_packets_response::Msg`. -/
inductive Msg
  | batch (b : ProtoPacketBatch)
  | heartbeat (count : Nat)
  deriving DecidableEq

/-- The batch a message carries. -/
def Msg.batch? : Msg → Option ProtoPacketBatch
  | .batch b => some b
  | .heartbeat _ => none

/-- A `TokioSender` of a subscriber's stream: the channel it sends on, and the bound that
`channel(..)` gave it. -/
structure Sender where
  id : Nat
  maxCapacity : Nat
  deriving DecidableEq

/-- `TrySendError` and `Ok` of `TokioSender::try_send`. -/
inductive TrySendResult
  | ok
  | full
  | closed
  deriving DecidableEq

/-- One `try_send` of a message to the sender registered for `pubkey`, and its outcome. -/
structure Attempt where
  pubkey : Pubkey
  sender : Sender
  msg : Msg
  result : TrySendResult
  deriving DecidableEq

/-- The batches a log of attempts enqueued on `s`: its `Ok` attempts with a `Batch`. -/
def enqueuedOn (s : Sender) (log : List Attempt) : List ProtoPacketBatch :=
  log.filterMap fun a => if a.sender = s ∧ a.result = .ok then a.msg.batch? else none

/-- `crossbeam_channel::RecvError`: the channel is empty and disconnected. -/
inductive RecvError
  | disconnected
  deriving DecidableEq

/-- `RelayerError`. -/
inductive RelayerError
  | Shutdown (e : RecvError)
  deriving DecidableEq

/-- How the thread of `run_event_loop` ends: an arm returns an error, or panics. -/
inductive LoopExit
  | error (e : RelayerError)
  | panic (msg : String)
  deriving DecidableEq

/-- The shared `HashMap<Pubkey, TokioSender<..>>` of subscriptions. -/
abbrev PacketSubscriptions := AList (fun _ : Pubkey => Sender)

/-- The subscriptions as the `(pubkey, sender)` pairs their iteration yields. -/
def PacketSubscriptions.pairs (subs : PacketSubscriptions) : List (Pubkey × Sender) :=
  subs.entries.map fun e => (e.1, e.2)

theorem PacketSubscriptions.mem_pairs {subs : PacketSubscriptions} {pk : Pubkey} {s : Sender} :
    (pk, s) ∈ subs.pairs ↔ subs.lookup pk = some s := by
  simp [PacketSubscriptions.pairs, ← AList.mem_lookup_iff]

/-! ## Metrics -/

/-- `PacketForwardStats`. -/
structure PacketForwardStats where
  numPacketsForwarded : Nat
  numPacketsDropped : Nat
  deriving DecidableEq

/-- The counters of `RelayerMetrics` that the arms update. -/
structure RelayerMetrics where
  highestSlot : Nat
  numAddedConnections : Nat
  numRemovedConnections : Nat
  numCurrentConnections : Nat
  numHeartbeats : Nat
  numTrySendChannelFull : Nat
  packetSubscriptionsTotalQueued : Nat
  packetStatsPerValidator : AList (fun _ : Pubkey => PacketForwardStats)

namespace RelayerMetrics

/-- `RelayerMetrics::new`. -/
def new : RelayerMetrics := ⟨0, 0, 0, 0, 0, 0, 0, ∅⟩

/-- `increment_packets_forwarded`: `entry().and_modify(..).or_insert(..)`. -/
def incrementPacketsForwarded (m : RelayerMetrics) (pk : Pubkey) (n : Nat) : RelayerMetrics :=
  { m with packetStatsPerValidator :=
      match m.packetStatsPerValidator.lookup pk with
      | some e => m.packetStatsPerValidator.insert pk
          { e with numPacketsForwarded := saturatingAdd e.numPacketsForwarded n }
      | none => m.packetStatsPerValidator.insert pk ⟨n, 0⟩ }

/-- `increment_packets_dropped`. -/
def incrementPacketsDropped (m : RelayerMetrics) (pk : Pubkey) (n : Nat) : RelayerMetrics :=
  { m with packetStatsPerValidator :=
      match m.packetStatsPerValidator.lookup pk with
      | some e => m.packetStatsPerValidator.insert pk
          { e with numPacketsDropped := saturatingAdd e.numPacketsDropped n }
      | none => m.packetStatsPerValidator.insert pk ⟨0, n⟩ }

/-- `update_packet_subscription_total_capacity`, with `x.capacity()` of each sender given. -/
def updatePacketSubscriptionTotalCapacity (m : RelayerMetrics) (subs : PacketSubscriptions)
    (capacity : Sender → Nat) : RelayerMetrics :=
  { m with packetSubscriptionsTotalQueued :=
      (subs.entries.map fun e => subscriberQueueCapacity - capacity e.2).sum }

end RelayerMetrics

/-! ## `forward_packets` -/

/-- What `forward_packets` takes from libraries: `Packet::deserialize_slice` into a
transaction, and `packet_to_proto_packet` (`jito_protos::convert`). -/
structure Codec where
  deserialize : Packet → Option VersionedTransaction
  toProto : Packet → Option ProtoPacket

/-- `slice::chunks(size)` for `size > 0`: consecutive pieces of `size` items, the last one
possibly shorter. -/
def chunks {α : Type} (size : Nat) (l : List α) : List (List α) :=
  go l.length l
where
  /-- Structural on a bound of the number of pieces left. -/
  go : Nat → List α → List (List α)
    | 0, _ => []
    | _ + 1, [] => []
    | fuel + 1, x :: xs => (x :: xs).take size :: go fuel ((x :: xs).drop size)

section Forward

variable (codec : Codec)

/-- The second `filter_map` of `forward_packets`: with a denylist, a packet is kept when it
decodes to a transaction that `is_tx_ofac_related` clears. -/
def ofacFilter (ofacAddresses : List Pubkey) (cache : LookupTableCache) (p : Packet) :
    Option Packet :=
  if !ofacAddresses.isEmpty then
    match codec.deserialize p with
    | some tx => if !isTxOfacRelated tx ofacAddresses cache then some p else none
    | none => none
  else some p

/-- The packets `forward_packets` forwards: of each batch in order, those not discarded that
pass the OFAC filter, converted by `packet_to_proto_packet`. -/
def forwardablePackets (ofacAddresses : List Pubkey) (cache : LookupTableCache)
    (batches : List (List Packet)) : List ProtoPacket :=
  batches.flatMap fun batch =>
    ((batch.filter fun p => !p.meta.discard).filterMap
      (ofacFilter codec ofacAddresses cache)).filterMap codec.toProto

/-- The chunks `forward_packets` builds from a `validator_packet_batch_size > 0`. -/
def protoPacketBatches (ofacAddresses : List Pubkey) (cache : LookupTableCache)
    (validatorPacketBatchSize : Nat) (batches : List (List Packet)) : List ProtoPacketBatch :=
  (chunks validatorPacketBatchSize (forwardablePackets codec ofacAddresses cache batches)).map
    ProtoPacketBatch.mk

end Forward

/-- The `senders` of `forward_packets`: every subscriber with `forward_all`, else the
subscribers among `slot_leaders`. -/
def senders (subs : PacketSubscriptions) (slotLeaders : List Pubkey) (forwardAll : Bool) :
    List (Pubkey × Sender) :=
  if forwardAll then subs.pairs
  else slotLeaders.filterMap fun pk => (subs.lookup pk).map (pk, ·)

/-- What the send loop of `forward_packets` produces: the metrics, `failed_forwards`, and the
`try_send`s it made. -/
structure Sent where
  metrics : RelayerMetrics
  failedForwards : List Pubkey
  attempts : List Attempt

/-- The inner loop of `forward_packets` for one chunk: a `try_send` to each sender in turn;
`Closed` pushes the sender's pubkey on `failed_forwards` and `break`s. -/
def sendBatch (res : Sender → TrySendResult) (batch : ProtoPacketBatch) :
    List (Pubkey × Sender) → RelayerMetrics → Sent
  | [], m => ⟨m, [], []⟩
  | (pk, s) :: rest, m =>
    let a : Attempt := ⟨pk, s, .batch batch, res s⟩
    match res s with
    | .ok =>
      let r := sendBatch res batch rest (m.incrementPacketsForwarded pk batch.packets.length)
      ⟨r.metrics, r.failedForwards, a :: r.attempts⟩
    | .full =>
      let r := sendBatch res batch rest (m.incrementPacketsDropped pk batch.packets.length)
      ⟨r.metrics, r.failedForwards, a :: r.attempts⟩
    | .closed => ⟨m, [pk], [a]⟩

/-- The outer loop of `forward_packets` over the chunks, the `i`-th chunk with the outcomes
`res i`; an empty chunk is skipped. -/
def sendBatches (res : Nat → Sender → TrySendResult) (ss : List (Pubkey × Sender)) :
    Nat → List ProtoPacketBatch → RelayerMetrics → Sent
  | _, [], m => ⟨m, [], []⟩
  | i, b :: bs, m =>
    if b.packets.isEmpty then sendBatches res ss (i + 1) bs m
    else
      let r := sendBatch (res i) b ss m
      let r' := sendBatches res ss (i + 1) bs r.metrics
      ⟨r'.metrics, r.failedForwards ++ r'.failedForwards, r.attempts ++ r'.attempts⟩

/-- The configuration `run_event_loop` is started with. -/
structure RelayerConfig where
  slotLookahead : Nat
  ofacAddresses : List Pubkey
  validatorPacketBatchSize : Nat
  forwardAll : Bool
  codec : Codec

/-- `forward_packets`: the pubkeys to disconnect, the metrics, and the `try_send`s made. A
`validator_packet_batch_size` of `0` divides by zero in `Vec::with_capacity`. -/
def forwardPackets (cfg : RelayerConfig) (maybePacketBatches : Except RecvError (List (List Packet)))
    (subs : PacketSubscriptions) (slotLeaders : List Pubkey) (m : RelayerMetrics)
    (cache : LookupTableCache) (res : Nat → Sender → TrySendResult) : Except LoopExit Sent :=
  match maybePacketBatches with
  | .error e => .error (.error (.Shutdown e))
  | .ok batches =>
    if cfg.validatorPacketBatchSize = 0 then .error (.panic "attempt to divide by zero")
    else
      .ok (sendBatches res (senders subs slotLeaders cfg.forwardAll) 0
        (protoPacketBatches cfg.codec cfg.ofacAddresses cache cfg.validatorPacketBatchSize batches) m)

/-! ## The other arms' functions -/

/-- `drop_connections`. -/
def dropConnections (disconnected : List Pubkey) (subs : PacketSubscriptions) (m : RelayerMetrics) :
    PacketSubscriptions × RelayerMetrics :=
  (disconnected.foldl (fun s pk => s.erase pk) subs,
    { m with numRemovedConnections := wrappingAdd m.numRemovedConnections disconnected.length })

/-- The `filter_map` of `handle_heartbeat`: a `Heartbeat` with `count` to each subscriber;
`Closed` keeps the pubkey, `Full` counts in `num_try_send_channel_full`. -/
def sendHeartbeats (res : Sender → TrySendResult) (count : Nat) :
    List (Pubkey × Sender) → RelayerMetrics → Sent
  | [], m => ⟨m, [], []⟩
  | (pk, s) :: rest, m =>
    let a : Attempt := ⟨pk, s, .heartbeat count, res s⟩
    match res s with
    | .ok =>
      let r := sendHeartbeats res count rest m
      ⟨r.metrics, r.failedForwards, a :: r.attempts⟩
    | .full =>
      let r := sendHeartbeats res count rest
        { m with numTrySendChannelFull := wrappingAdd m.numTrySendChannelFull 1 }
      ⟨r.metrics, r.failedForwards, a :: r.attempts⟩
    | .closed =>
      let r := sendHeartbeats res count rest m
      ⟨r.metrics, pk :: r.failedForwards, a :: r.attempts⟩

/-- `handle_heartbeat`. -/
def handleHeartbeat (res : Sender → TrySendResult) (subs : PacketSubscriptions)
    (m : RelayerMetrics) : Sent :=
  let r := sendHeartbeats res m.numHeartbeats subs.pairs m
  { r with metrics := { r.metrics with numHeartbeats := wrappingAdd r.metrics.numHeartbeats 1 } }

/-- `Subscription::ValidatorPacketSubscription`. -/
structure Subscription where
  pubkey : Pubkey
  sender : Sender
  deriving DecidableEq

/-- `handle_subscription`: `Entry::insert` of the sender, which replaces the one of an already
connected pubkey; only a new pubkey counts in `num_added_connections`. -/
def handleSubscription (maybeSubscription : Except RecvError Subscription)
    (subs : PacketSubscriptions) (m : RelayerMetrics) :
    Except LoopExit (PacketSubscriptions × RelayerMetrics) :=
  match maybeSubscription with
  | .error e => .error (.error (.Shutdown e))
  | .ok ⟨pk, s⟩ =>
    if pk ∈ subs then .ok (subs.insert pk s, m)
    else .ok (subs.insert pk s, { m with numAddedConnections := wrappingAdd m.numAddedConnections 1 })

/-- `update_highest_slot`. -/
def updateHighestSlot (maybeSlot : Except RecvError Nat) (m : RelayerMetrics) :
    Except LoopExit (Nat × RelayerMetrics) :=
  match maybeSlot with
  | .error e => .error (.error (.Shutdown e))
  | .ok slot => .ok (slot, { m with highestSlot := slot })

/-- The slots of the slot arm, `highest_slot..highest_slot + slot_lookahead`, with the `u64`
addition of a release build. -/
def lookaheadSlots (highestSlot slotLookahead : Nat) : List Nat :=
  List.range' highestSlot (wrappingAdd highestSlot slotLookahead - highestSlot)

/-! ## What the send loops do -/

/-- The senders one chunk reaches: up to the first whose queue is closed, that one included. -/
def upToClosed (res : Sender → TrySendResult) : List (Pubkey × Sender) → List (Pubkey × Sender)
  | [] => []
  | p :: ps => p :: if res p.2 = .closed then [] else upToClosed res ps

theorem upToClosed_sublist (res : Sender → TrySendResult) (ss : List (Pubkey × Sender)) :
    (upToClosed res ss).Sublist ss := by
  induction ss with
  | nil => exact List.Sublist.slnil
  | cons p ss ih =>
    simp only [upToClosed]
    split
    · exact (List.nil_sublist ss).cons₂ p
    · exact ih.cons₂ p

/-- The `try_send` a chunk makes to a sender. -/
def batchAttempt (res : Sender → TrySendResult) (b : ProtoPacketBatch) (p : Pubkey × Sender) :
    Attempt :=
  ⟨p.1, p.2, .batch b, res p.2⟩

/-- The `try_send` `handle_heartbeat` makes to a sender. -/
def heartbeatAttempt (res : Sender → TrySendResult) (count : Nat) (p : Pubkey × Sender) :
    Attempt :=
  ⟨p.1, p.2, .heartbeat count, res p.2⟩

/-- The pubkeys of the senders whose queue is closed. -/
def closedPubkeys (res : Sender → TrySendResult) (ss : List (Pubkey × Sender)) : List Pubkey :=
  (ss.filter fun p => res p.2 = .closed).map Prod.fst

theorem sendBatch_attempts (res : Sender → TrySendResult) (b : ProtoPacketBatch)
    (ss : List (Pubkey × Sender)) (m : RelayerMetrics) :
    (sendBatch res b ss m).attempts = (upToClosed res ss).map (batchAttempt res b) := by
  induction ss generalizing m with
  | nil => rfl
  | cons p ss ih =>
    obtain ⟨pk, s⟩ := p
    simp only [sendBatch, upToClosed]
    split <;> rename_i h <;> simp [h, ih, batchAttempt]

theorem sendBatch_failedForwards (res : Sender → TrySendResult) (b : ProtoPacketBatch)
    (ss : List (Pubkey × Sender)) (m : RelayerMetrics) :
    (sendBatch res b ss m).failedForwards = closedPubkeys res (upToClosed res ss) := by
  induction ss generalizing m with
  | nil => rfl
  | cons p ss ih =>
    obtain ⟨pk, s⟩ := p
    simp only [sendBatch, upToClosed]
    split <;> rename_i h <;> simp [h, ih, closedPubkeys]

theorem sendHeartbeats_attempts (res : Sender → TrySendResult) (count : Nat)
    (ss : List (Pubkey × Sender)) (m : RelayerMetrics) :
    (sendHeartbeats res count ss m).attempts = ss.map (heartbeatAttempt res count) := by
  induction ss generalizing m with
  | nil => rfl
  | cons p ss ih =>
    obtain ⟨pk, s⟩ := p
    simp only [sendHeartbeats]
    split <;> simp [ih, heartbeatAttempt]

theorem sendHeartbeats_failedForwards (res : Sender → TrySendResult) (count : Nat)
    (ss : List (Pubkey × Sender)) (m : RelayerMetrics) :
    (sendHeartbeats res count ss m).failedForwards = closedPubkeys res ss := by
  induction ss generalizing m with
  | nil => rfl
  | cons p ss ih =>
    obtain ⟨pk, s⟩ := p
    simp only [sendHeartbeats]
    split <;> rename_i h <;> simp [h, ih, closedPubkeys]

/-- A pubkey of `closedPubkeys` is that of a sender whose queue is closed. -/
theorem mem_closedPubkeys {res : Sender → TrySendResult} {ss : List (Pubkey × Sender)} {pk : Pubkey}
    (h : pk ∈ closedPubkeys res ss) : ∃ s, (pk, s) ∈ ss ∧ res s = .closed := by
  simp only [closedPubkeys, List.mem_map, List.mem_filter, decide_eq_true_eq] at h
  obtain ⟨⟨pk', s⟩, ⟨hm, hc⟩, rfl⟩ := h
  exact ⟨s, hm, hc⟩

/-- Every `try_send` of the chunk loop goes to a sender of `ss` with a chunk of `bs`, and a
failed pubkey is that of a sender whose `try_send` returned `Closed`. -/
theorem sendBatches_spec (res : Nat → Sender → TrySendResult) (ss : List (Pubkey × Sender))
    (i : Nat) (bs : List ProtoPacketBatch) (m : RelayerMetrics) :
    (∀ a ∈ (sendBatches res ss i bs m).attempts,
      (a.pubkey, a.sender) ∈ ss ∧ ∃ b ∈ bs, a.msg = .batch b) ∧
    (∀ pk ∈ (sendBatches res ss i bs m).failedForwards, ∃ a ∈ (sendBatches res ss i bs m).attempts,
      a.pubkey = pk ∧ a.result = .closed) := by
  induction bs generalizing i m with
  | nil => simp [sendBatches]
  | cons b bs ih =>
    simp only [sendBatches]
    split
    · obtain ⟨h1, h2⟩ := ih (i + 1) m
      exact ⟨fun a ha => (h1 a ha).imp_right fun ⟨b', hb', e⟩ => ⟨b', .tail _ hb', e⟩, h2⟩
    · obtain ⟨h1, h2⟩ := ih (i + 1) (sendBatch (res i) b ss m).metrics
      refine ⟨fun a ha => ?_, fun pk hpk => ?_⟩
      · rcases List.mem_append.mp ha with ha | ha
        · rw [sendBatch_attempts] at ha
          obtain ⟨p, hp, rfl⟩ := List.mem_map.mp ha
          exact ⟨(upToClosed_sublist _ ss).subset hp, b, .head _, rfl⟩
        · exact (h1 a ha).imp_right fun ⟨b', hb', e⟩ => ⟨b', .tail _ hb', e⟩
      · rcases List.mem_append.mp hpk with hpk | hpk
        · rw [sendBatch_failedForwards] at hpk
          obtain ⟨s, hs, hc⟩ := mem_closedPubkeys hpk
          refine ⟨batchAttempt (res i) b (pk, s), List.mem_append_left _ ?_, rfl, hc⟩
          rw [sendBatch_attempts]
          exact List.mem_map_of_mem _ hs
        · obtain ⟨a, ha, e⟩ := h2 pk hpk
          exact ⟨a, List.mem_append_right _ ha, e⟩

/-- A sender of `forward_packets` is the registered sender of its pubkey, and without
`forward_all` that pubkey is a slot leader. -/
theorem mem_senders {subs : PacketSubscriptions} {slotLeaders : List Pubkey} {forwardAll : Bool}
    {pk : Pubkey} {s : Sender} (h : (pk, s) ∈ senders subs slotLeaders forwardAll) :
    subs.lookup pk = some s ∧ (forwardAll = false → pk ∈ slotLeaders) := by
  unfold senders at h
  split at h
  · rename_i hf
    exact ⟨PacketSubscriptions.mem_pairs.mp h, fun h' => by simp [h'] at hf⟩
  · simp only [List.mem_filterMap, Option.map_eq_some'] at h
    obtain ⟨pk', hpk', s', hs', he⟩ := h
    cases he
    exact ⟨hs', fun _ => hpk'⟩

theorem forwardPackets_ok {cfg : RelayerConfig} {maybe : Except RecvError (List (List Packet))}
    {subs : PacketSubscriptions} {slotLeaders : List Pubkey} {m : RelayerMetrics}
    {cache : LookupTableCache} {res : Nat → Sender → TrySendResult} {sent : Sent}
    (h : forwardPackets cfg maybe subs slotLeaders m cache res = .ok sent) :
    ∃ batches, maybe = .ok batches ∧ cfg.validatorPacketBatchSize ≠ 0 ∧
      sent = sendBatches res (senders subs slotLeaders cfg.forwardAll) 0
        (protoPacketBatches cfg.codec cfg.ofacAddresses cache cfg.validatorPacketBatchSize batches) m := by
  unfold forwardPackets at h
  split at h
  · cases h
  · split at h
    · cases h
    · cases h; exact ⟨_, rfl, ‹_›, rfl⟩

/-- `drop_connections` unregisters exactly the pubkeys of its list. -/
theorem lookup_dropConnections (ds : List Pubkey) (subs : PacketSubscriptions) (m : RelayerMetrics)
    (v : Pubkey) :
    (dropConnections ds subs m).1.lookup v = if v ∈ ds then none else subs.lookup v := by
  simp only [dropConnections]
  induction ds generalizing subs with
  | nil => simp
  | cons pk ds ih =>
    rw [List.foldl_cons, ih]
    by_cases hv : v = pk
    · subst hv; simp
    · simp [hv, AList.lookup_erase_ne hv]

theorem mem_lookaheadSlots {h l s : Nat} (hs : s ∈ lookaheadSlots h l) : h ≤ s ∧ s < h + l := by
  have hw : wrappingAdd h l ≤ h + l := Nat.mod_le _ _
  simp only [lookaheadSlots, List.mem_range'_1] at hs
  omega

end JitoRelayer
