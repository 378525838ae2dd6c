import JitoRelayer.Relayer.EventLoop

/-!
# What `forward_packets` sends (`relayer/src/relayer.rs`)

* `IsSplit`: a consecutive split of a list into pieces of `b` items, the last one possibly
  shorter; `isSplit_chunks` and `IsSplit.eq_chunks`: `chunks` is that split, and the only one.
* `specForwardedPackets`: the packets the spec has `forward_packets` forward, in its words;
  `forwardablePackets_eq_spec`: they are the ones the code collects.
* `sent_chunks_split`: for every batch size `b ≥ 1`, the non-empty chunks `forward_packets`
  sends are exactly the consecutive split of those packets into pieces of `b`.
* `closed_subscriber_blocks_later_ones`: a `Closed` `try_send` `break`s the loop over the
  recipients of a chunk, so a recipient iterated after a closed one gets nothing, although its
  own queue is open.
* `zero_batch_size_panics`: `validator_packet_batch_size = 0` divides by zero on every batch.
-/

namespace JitoRelayer

section Split

variable {α : Type} {b : Nat}

/-- `pieces` is a consecutive split of `l` into pieces of `b` items, the last one possibly
shorter: they concatenate to `l`, none is empty or longer than `b`, and all but the last have
`b` items. -/
def IsSplit (b : Nat) (l : List α) (pieces : List (List α)) : Prop :=
  pieces.flatten = l ∧ (∀ c ∈ pieces, c ≠ [] ∧ c.length ≤ b) ∧ ∀ c ∈ pieces.dropLast, c.length = b

/-- Any fuel above the length gives the same pieces. -/
theorem chunks_go_eq (hb : 0 < b) :
    ∀ (n m : Nat) (l : List α), l.length ≤ n → l.length ≤ m → chunks.go b n l = chunks.go b m l
  | 0, 0, _, _, _ => rfl
  | 0, _ + 1, [], _, _ | _ + 1, 0, [], _, _ | _ + 1, _ + 1, [], _, _ => rfl
  | 0, _, _ :: _, h, _ | _, 0, _ :: _, _, h => absurd h (Nat.not_succ_le_zero _)
  | n + 1, m + 1, x :: xs, hn, hm => by
    simp only [chunks.go]
    rw [chunks_go_eq hb n m _ (by rw [List.length_drop]; omega) (by rw [List.length_drop]; omega)]

@[simp] theorem chunks_nil : chunks b ([] : List α) = [] := rfl

theorem chunks_cons (hb : 0 < b) (x : α) (xs : List α) :
    chunks b (x :: xs) = (x :: xs).take b :: chunks b ((x :: xs).drop b) := by
  simp only [chunks, List.length_cons, chunks.go]
  rw [chunks_go_eq hb _ _ _ (by rw [List.length_drop, List.length_cons]; omega) le_rfl]

theorem isSplit_chunks (hb : 0 < b) : ∀ (n : Nat) (l : List α), l.length ≤ n → IsSplit b l (chunks b l)
  | _, [], _ => ⟨rfl, by simp, by simp⟩
  | 0, _ :: _, h => absurd h (Nat.not_succ_le_zero _)
  | n + 1, x :: xs, hl => by
    obtain ⟨h1, h2, h3⟩ := isSplit_chunks hb n ((x :: xs).drop b) (by rw [List.length_drop]; omega)
    rw [chunks_cons hb]
    refine ⟨by simp [h1], fun c hc => ?_, ?_⟩
    · rcases List.mem_cons.mp hc with rfl | hc
      · exact ⟨by simp; omega, List.length_take_le _ _⟩
      · exact h2 c hc
    · cases hr : chunks b ((x :: xs).drop b) with
      | nil => simp
      | cons r rs =>
        have hlong : b < (x :: xs).length := by
          by_contra hle
          rw [List.drop_eq_nil_of_le (by omega), chunks_nil] at hr
          cases hr
        rw [List.dropLast_cons₂]
        intro c hc
        rcases List.mem_cons.mp hc with rfl | hc
        · exact List.length_take_of_le hlong.le
        · exact h3 c (hr ▸ hc)

/-- **A split is the `chunks`.** -/
theorem IsSplit.eq_chunks (hb : 0 < b) {l : List α} {pieces : List (List α)}
    (h : IsSplit b l pieces) : pieces = chunks b l := by
  induction pieces generalizing l with
  | nil => rw [← h.1]; rfl
  | cons p ps ih =>
    obtain ⟨h1, h2, h3⟩ := h
    obtain ⟨hp, hpb⟩ := h2 p (List.mem_cons_self _ _)
    have htd : (p ++ ps.flatten).take b = p ∧ (p ++ ps.flatten).drop b = ps.flatten := by
      cases ps with
      | nil => simp [List.take_of_length_le hpb, List.drop_eq_nil_of_le hpb]
      | cons q qs =>
        have hlen : p.length = b := h3 p (by rw [List.dropLast_cons₂]; exact List.mem_cons_self _ _)
        exact ⟨List.take_left' hlen, List.drop_left' hlen⟩
    have hps : IsSplit b ps.flatten ps := by
      refine ⟨rfl, fun c hc => h2 c (List.mem_cons_of_mem _ hc), fun c hc => h3 c ?_⟩
      cases ps with
      | nil => cases hc
      | cons q qs => rw [List.dropLast_cons₂]; exact List.mem_cons_of_mem _ hc
    obtain ⟨x, xs, rfl⟩ := List.exists_cons_of_ne_nil hp
    rw [← h1, List.flatten_cons, List.cons_append, chunks_cons hb, ← List.cons_append, htd.1,
      htd.2, ← ih hps]

end Split

section Packets

variable (codec : Codec) (ofacAddresses : List Pubkey) (cache : LookupTableCache)

/-- The OFAC filter of the spec: a packet is kept when the denylist is empty, or when it
deserializes to a transaction `is_tx_ofac_related` clears. -/
def ofacKept (p : Packet) : Bool :=
  ofacAddresses.isEmpty || (codec.deserialize p).any fun tx => !isTxOfacRelated tx ofacAddresses cache

/-- The packets the spec has `forward_packets` forward, in its words: of the batches flattened
in order, each packet whose discard flag is clear and that the OFAC filter keeps, mapped
through `packet_to_proto_packet` with the packets it rejects removed. -/
def specForwardedPackets (batches : List (List Packet)) : List ProtoPacket :=
  (batches.flatten.filter fun p => !p.meta.discard && ofacKept codec ofacAddresses cache p).filterMap
    codec.toProto

theorem ofacFilter_eq (p : Packet) :
    ofacFilter codec ofacAddresses cache p =
      if ofacKept codec ofacAddresses cache p then some p else none := by
  unfold ofacFilter ofacKept
  cases ofacAddresses.isEmpty <;> cases codec.deserialize p <;> simp [Option.any]

theorem filterMap_ofacFilter (l : List Packet) :
    l.filterMap (ofacFilter codec ofacAddresses cache) = l.filter (ofacKept codec ofacAddresses cache) := by
  induction l with
  | nil => rfl
  | cons p l ih =>
    rw [List.filterMap_cons, ofacFilter_eq, List.filter_cons]
    cases ofacKept codec ofacAddresses cache p <;> simp [ih]

/-- The `flat_map` of `forward_packets` collects the packets of the spec. -/
theorem forwardablePackets_eq_spec (batches : List (List Packet)) :
    forwardablePackets codec ofacAddresses cache batches =
      specForwardedPackets codec ofacAddresses cache batches := by
  induction batches with
  | nil => rfl
  | cons batch batches ih =>
    simp only [forwardablePackets, specForwardedPackets, List.flatMap_cons, List.flatten_cons,
      List.filter_append, List.filterMap_append] at ih ⊢
    rw [ih, filterMap_ofacFilter, List.filter_filter]
    congr 3
    funext p
    exact Bool.and_comm _ _

/-- **Filter and rechunk.** For every batch size `b ≥ 1`, the non-empty chunks that
`forward_packets` sends are a consecutive split into pieces of `b` of the packets the spec
keeps, and the only one: no kept packet is lost, duplicated or reordered, and no other packet
is sent. -/
theorem sent_chunks_split {b : Nat} (hb : 1 ≤ b) (batches : List (List Packet))
    (pieces : List (List ProtoPacket)) :
    IsSplit b (specForwardedPackets codec ofacAddresses cache batches) pieces ↔
      pieces = ((protoPacketBatches codec ofacAddresses cache b batches).filter
        fun c => !c.packets.isEmpty).map (·.packets) := by
  have hsplit := isSplit_chunks hb _ (specForwardedPackets codec ofacAddresses cache batches) le_rfl
  have hsent : ((protoPacketBatches codec ofacAddresses cache b batches).filter
      fun c => !c.packets.isEmpty).map (·.packets) =
      chunks b (specForwardedPackets codec ofacAddresses cache batches) := by
    rw [protoPacketBatches, forwardablePackets_eq_spec, List.filter_map, List.map_map,
      List.filter_eq_self.mpr fun c hc => by simpa [List.isEmpty_iff] using (hsplit.2.1 c hc).1]
    exact List.map_id _
  rw [hsent]
  exact ⟨fun h => h.eq_chunks hb, fun h => h ▸ hsplit⟩

/-- Three packets in two batches, the second one discarded, with chunks of two: one chunk of
the other two. -/
theorem sent_chunks_split_three_packets :
    let codec : Codec := ⟨fun _ => none, fun p => some ⟨p.buffer, p.meta⟩⟩
    let p : Packet := ⟨[], ⟨0, .V4 0, 0, 0⟩⟩
    let d : Packet := ⟨[], ⟨0, .V4 0, 0, 1⟩⟩
    1 ≤ 2 ∧ (IsSplit 2 (specForwardedPackets codec [] ∅ [[p, d], [p]]) [[⟨[], p.meta⟩, ⟨[], p.meta⟩]] ↔
      [[⟨[], p.meta⟩, ⟨[], p.meta⟩]] = ((protoPacketBatches codec [] ∅ 2 [[p, d], [p]]).filter
        fun c => !c.packets.isEmpty).map (·.packets)) :=
  ⟨by decide, sent_chunks_split _ _ _ (by decide) _ _⟩

end Packets

/-! ## The fan-out -/

/-- Two subscribers that `forward_all` iterates as `[v, w]`, `v`'s queue closed and `w`'s
open: the chunk is tried on `v` only, `v` is disconnected, and `w` is never tried, so its
counters do not grow. -/
theorem closed_subscriber_blocks_later_ones :
    let codec : Codec := ⟨fun _ => none, fun p => some ⟨p.buffer, p.meta⟩⟩
    let v : Pubkey := ⟨List.replicate 32 1, rfl⟩
    let w : Pubkey := ⟨List.replicate 32 2, rfl⟩
    let subs : PacketSubscriptions :=
      ((∅ : PacketSubscriptions).insert w ⟨1, 50000⟩).insert v ⟨0, 50000⟩
    let res : Nat → Sender → TrySendResult := fun _ s => if s.id = 0 then .closed else .ok
    subs.pairs = [(v, ⟨0, 50000⟩), (w, ⟨1, 50000⟩)] ∧
      (forwardPackets ⟨4, [], 4, true, codec⟩ (.ok [[⟨[], ⟨0, .V4 0, 0, 0⟩⟩]]) subs [] RelayerMetrics.new ∅
          res).toOption.map
        (fun s => (s.attempts, s.failedForwards, s.metrics.packetStatsPerValidator.lookup w)) =
        some ([⟨v, ⟨0, 50000⟩, .batch ⟨[⟨[], ⟨0, .V4 0, 0, 0⟩⟩]⟩, .closed⟩], [v], none) := by
  decide

/-- With `validator_packet_batch_size = 0`, which `main` accepts (a `usize` with no check),
`forward_packets` divides by zero on every batch, an empty one included, and the packet arm
ends the event loop's thread without sending anything. -/
theorem zero_batch_size_panics (cfg : RelayerConfig) (r : Relayer) (batches : List (List Packet))
    (cache : LookupTableCache) (res : Nat → Sender → TrySendResult) :
    forwardPackets { cfg with validatorPacketBatchSize := 0 } (.ok batches) r.packetSubscriptions
        r.loop.slotLeaders r.loop.metrics cache res = .error (.panic "attempt to divide by zero") ∧
      (r.step { cfg with validatorPacketBatchSize := 0 } (.packets (.ok batches) cache res)).1.loop.running
        = false ∧
      (r.step { cfg with validatorPacketBatchSize := 0 } (.packets (.ok batches) cache res)).2 = [] := by
  have hf : forwardPackets { cfg with validatorPacketBatchSize := 0 } (.ok batches) r.packetSubscriptions
      r.loop.slotLeaders r.loop.metrics cache res = .error (.panic "attempt to divide by zero") := rfl
  refine ⟨hf, ?_⟩
  simp only [Relayer.step]
  split
  · simp only [Relayer.packetArm, hf, Relayer.stop_running, and_self]
  · rename_i hr
    exact ⟨by simpa using hr, rfl⟩

end JitoRelayer
