import JitoRelayer.Relayer.Routing
import Mathlib.Data.List.Sigma

/-!
# What reaches a subscriber's queue

* `Relayer.Wf`: the invariant of every reachable state: `slot_leaders` repeats no pubkey, and the
  senders the relayer holds (registered, queued on the subscription channel, held by a pending
  `subscribe_packets`) are all different and older than the next `channel(..)`.
* `enqueued_sublist_chunks_while_registered`: the batches enqueued on a sender are, in order and
  each at most once, among the chunks of the packet arms that ran while it was registered.
* `tried_after_mass_disconnect_only_inflight`: after a heartbeat arm that reads `Unhealthy`,
  when no later `subscribe_packets` passes its health check, every `try_send` goes to a
  subscription that was in flight at that heartbeat; `batch_enqueued_after_mass_disconnect`
  is such a run that still enqueues a `Batch`.
-/

namespace JitoRelayer

/-! ## The senders of the relayer -/

theorem dropConnections_entries_sublist (ds : List Pubkey) (subs : PacketSubscriptions)
    (m : RelayerMetrics) : (dropConnections ds subs m).1.entries.Sublist subs.entries := by
  simp only [dropConnections]
  induction ds generalizing subs with
  | nil => exact List.Sublist.refl _
  | cons pk ds ih => exact (ih (subs.erase pk)).trans (List.kerase_sublist pk subs.entries)

/-- Registered senders of different pubkeys are different. -/
theorem lookup_injective {subs : PacketSubscriptions} (h : (subs.entries.map (·.2)).Nodup)
    {a a' : Pubkey} {s : Sender} (ha : subs.lookup a = some s) (ha' : subs.lookup a' = some s) :
    a = a' := by
  have e := List.inj_on_of_nodup_map h (AList.mem_lookup_iff.mp ha) (AList.mem_lookup_iff.mp ha') rfl
  exact congrArg Sigma.fst e

/-- The recipients of `forward_packets` are different senders. -/
theorem senders_nodup {subs : PacketSubscriptions} {slotLeaders : List Pubkey} (forwardAll : Bool)
    (hs : (subs.entries.map (·.2)).Nodup) (hl : slotLeaders.Nodup) :
    ((senders subs slotLeaders forwardAll).map Prod.snd).Nodup := by
  unfold senders
  split
  · simpa [PacketSubscriptions.pairs] using hs
  · rw [List.map_filterMap]
    exact hl.filterMap fun a a' s ha ha' => lookup_injective hs (s := s) (by simpa using ha)
      (by simpa using ha')

@[simp] theorem enqueuedOn_nil (s : Sender) : enqueuedOn s [] = [] := rfl

@[simp] theorem enqueuedOn_append (s : Sender) (l l' : List Attempt) :
    enqueuedOn s (l ++ l') = enqueuedOn s l ++ enqueuedOn s l' :=
  List.filterMap_append _ _ _

theorem enqueuedOn_cons_of_ne {s : Sender} {a : Attempt} (h : a.sender ≠ s) (l : List Attempt) :
    enqueuedOn s (a :: l) = enqueuedOn s l := by
  simp [enqueuedOn, h]

theorem enqueuedOn_eq_nil {s : Sender} {l : List Attempt} (h : ∀ a ∈ l, a.sender = s →
    a.result = .ok → a.msg.batch? = none) : enqueuedOn s l = [] := by
  refine List.filterMap_eq_nil_iff.mpr fun a ha => ?_
  by_cases hc : a.sender = s ∧ a.result = .ok
  · rw [if_pos hc]; exact h a ha hc.1 hc.2
  · rw [if_neg hc]

/-- One chunk reaches a sender at most once. -/
theorem enqueuedOn_batchAttempts (res : Sender → TrySendResult) (b : ProtoPacketBatch) (s : Sender) :
    ∀ l : List (Pubkey × Sender), (l.map Prod.snd).Nodup →
      (enqueuedOn s (l.map (batchAttempt res b))).Sublist [b]
  | [], _ => List.nil_sublist _
  | (pk, x) :: l, hl => by
    rw [List.map_cons, List.nodup_cons] at hl
    rw [List.map_cons]
    by_cases hx : x = s
    · subst hx
      have : enqueuedOn x (l.map (batchAttempt res b)) = [] := enqueuedOn_eq_nil fun a ha has _ => by
        obtain ⟨q, hq, rfl⟩ := List.mem_map.mp ha
        exact (hl.1 (List.mem_map.mpr ⟨q, hq, has⟩)).elim
      rw [← List.singleton_append, enqueuedOn_append, this, List.append_nil]
      cases hr : res x <;> simp [enqueuedOn, batchAttempt, hr, Msg.batch?]
    · rw [enqueuedOn_cons_of_ne hx]
      exact enqueuedOn_batchAttempts res b s l hl.2

/-- The chunk loop enqueues on a sender a sublist of the chunks. -/
theorem enqueuedOn_sendBatches (res : Nat → Sender → TrySendResult) {ss : List (Pubkey × Sender)}
    (hss : (ss.map Prod.snd).Nodup) (s : Sender) :
    ∀ (i : Nat) (bs : List ProtoPacketBatch) (m : RelayerMetrics),
      (enqueuedOn s (sendBatches res ss i bs m).attempts).Sublist bs
  | _, [], _ => List.nil_sublist _
  | i, b :: bs, m => by
    simp only [sendBatches]
    split
    · exact (enqueuedOn_sendBatches res hss s (i + 1) bs m).cons b
    · simp only [enqueuedOn_append]
      rw [← List.singleton_append]
      refine List.Sublist.append ?_ (enqueuedOn_sendBatches res hss s _ bs _)
      rw [sendBatch_attempts]
      exact enqueuedOn_batchAttempts (res i) b s _ (hss.sublist ((upToClosed_sublist _ ss).map _))

namespace Relayer

variable {cfg : RelayerConfig}

/-- The senders registered in `packet_subscriptions`. -/
def registeredSenders (r : Relayer) : List Sender :=
  r.packetSubscriptions.entries.map (·.2)

/-- The senders of the subscriptions in flight: queued on the subscription channel, or held by
a pending `subscribe_packets` call. -/
def inflight (r : Relayer) : List Sender :=
  (r.subscriptionChannel ++ r.pending).map Subscription.sender

/-- Every sender the relayer holds. -/
def allSenders (r : Relayer) : List Sender :=
  r.registeredSenders ++ r.inflight

/-- The invariant of every reachable state. -/
structure Wf (r : Relayer) : Prop where
  slotLeaders_nodup : r.loop.slotLeaders.Nodup
  senders_nodup : r.allSenders.Nodup
  senders_lt : ∀ s ∈ r.allSenders, s.id < r.nextChannel

theorem Wf.init : Wf Relayer.init :=
  ⟨List.nodup_nil, by simp [allSenders, registeredSenders, inflight, Relayer.init],
    by simp [allSenders, registeredSenders, inflight, Relayer.init]⟩

theorem registered_nodup {r : Relayer} (h : Wf r) : r.registeredSenders.Nodup :=
  h.senders_nodup.sublist (List.sublist_append_left _ _)

/-- `drop_connections` keeps a sublist of the senders. -/
theorem allSenders_dropConnections (r : Relayer) (ds : List Pubkey) (m : RelayerMetrics)
    (l : EventLoop) :
    ({ r with packetSubscriptions := (dropConnections ds r.packetSubscriptions m).1, loop := l }
      : Relayer).allSenders.Sublist r.allSenders :=
  ((dropConnections_entries_sublist ds r.packetSubscriptions m).map _).append (List.Sublist.refl _)

/-- The subscription arm moves the oldest queued sender into the map. -/
theorem subscriptionArm_allSenders (r : Relayer) :
    r.subscriptionArm.allSenders.Subperm r.allSenders := by
  unfold subscriptionArm
  split
  · exact List.Subperm.refl _
  · rename_i sub rest hc
    obtain ⟨m', hm⟩ := handleSubscription_ok sub r.packetSubscriptions r.loop.metrics
    simp only [hm, allSenders, registeredSenders, inflight, hc, AList.insert_entries, List.map_cons, List.cons_append,
      List.map_append]
    refine ⟨_, List.perm_middle, ?_⟩
    exact ((List.kerase_sublist _ _).map _).append (List.Sublist.refl _)

/-- What a step does to the senders: it keeps a subset of them, or a `subscribe_packets` that
reads `Healthy` adds a new one. -/
theorem step_allSenders (r : Relayer) (e : Event) :
    ((r.step cfg e).1.allSenders.Subperm r.allSenders ∧ (r.step cfg e).1.nextChannel = r.nextChannel) ∨
    (∃ pk, e = .subscribe (some pk) ∧ r.healthState = .Healthy ∧
      (r.step cfg e).1.allSenders = r.allSenders ++ [⟨r.nextChannel, subscriberQueueCapacity⟩] ∧
      (r.step cfg e).1.nextChannel = r.nextChannel + 1) := by
  have hs := step_shape cfg r e
  generalize r.step cfg e = p at hs ⊢
  cases hs with
  | slot => unfold slotArm; split <;> exact .inl ⟨List.Subperm.refl _, rfl⟩
  | packets =>
    unfold packetArm
    split
    · exact .inl ⟨(allSenders_dropConnections r _ _ _).subperm, rfl⟩
    · exact .inl ⟨List.Subperm.refl _, rfl⟩
  | subscription => exact .inl ⟨subscriptionArm_allSenders r, subscriptionArm_nextChannel r⟩
  | heartbeat => exact .inl ⟨(allSenders_dropConnections r _ _ _).subperm, rfl⟩
  | @subscribe pk hh =>
    exact .inr ⟨pk, rfl, hh, by simp [allSenders, registeredSenders, inflight], rfl⟩
  | subscribeDropped =>
    refine .inl ⟨(List.Sublist.append (List.Sublist.refl _) ?_).subperm, rfl⟩
    exact ((List.Sublist.refl _).append (List.erase_sublist _ _)).map _
  | subscribeSent hsub =>
    refine .inl ⟨List.Perm.subperm ?_, rfl⟩
    simp only [allSenders, inflight, List.append_assoc, List.singleton_append]
    exact .append_left _ (((List.perm_cons_erase (List.get?_mem hsub)).symm.append_left _).map _)
  | _ => exact .inl ⟨List.Subperm.refl _, rfl⟩

theorem step_slotLeaders_nodup {r : Relayer} (h : r.loop.slotLeaders.Nodup) (e : Event) :
    (r.step cfg e).1.loop.slotLeaders.Nodup := by
  rw [step_slotLeaders]
  split
  · exact LeaderSchedule.nodup_leadersForSlots _ _
  · exact h

/-- **One step keeps the invariant.** -/
theorem Wf.step {r : Relayer} (h : Wf r) (e : Event) : Wf (r.step cfg e).1 := by
  refine ⟨step_slotLeaders_nodup h.slotLeaders_nodup e, ?_, ?_⟩ <;>
    rcases @step_allSenders cfg r e with ⟨hs, hn⟩ | ⟨pk, -, -, hs, hn⟩
  · obtain ⟨l, hp, hl⟩ := hs
    exact hp.nodup_iff.mp (h.senders_nodup.sublist hl)
  · rw [hs]
    refine List.nodup_append.mpr ⟨h.senders_nodup, List.nodup_singleton _, fun s hs1 hs2 => ?_⟩
    obtain rfl := List.mem_singleton.mp hs2
    exact Nat.lt_irrefl _ (h.senders_lt _ hs1)
  · intro s hm
    rw [hn]; exact h.senders_lt s (hs.subset hm)
  · intro s hm
    rw [hn]
    rcases List.mem_append.mp (hs ▸ hm) with hm | hm
    · exact Nat.lt_succ_of_lt (h.senders_lt s hm)
    · rw [List.mem_singleton.mp hm]; exact Nat.lt_succ_self _

theorem Wf.run {r : Relayer} (h : Wf r) (evs : List Event) : Wf (r.run cfg evs).1 := by
  induction evs generalizing r with
  | nil => exact h
  | cons e evs ih => exact ih (h.step e)

/-- A `try_send` goes to a sender the relayer holds. -/
theorem attempt_sender_mem {r : Relayer} {e : Event} {a : Attempt} (ha : a ∈ (r.step cfg e).2) :
    a.sender ∈ r.registeredSenders :=
  List.mem_map.mpr ⟨⟨a.pubkey, a.sender⟩, AList.mem_lookup_iff.mp (mem_step_attempts ha).2.1, rfl⟩

/-! ## Per-subscriber FIFO -/

/-- The chunks the packet arm of a running loop builds, when `forward_packets` reaches its send
loop. -/
def builtChunks (cfg : RelayerConfig) (r : Relayer) : Event → List ProtoPacketBatch
  | .packets (.ok batches) cache _ =>
    if r.loop.running ∧ cfg.validatorPacketBatchSize ≠ 0 then
      protoPacketBatches cfg.codec cfg.ofacAddresses cache cfg.validatorPacketBatchSize batches
    else []
  | _ => []

/-- The chunk lists built by the packet arms at which `s` was registered, in arrival order. -/
def chunksWhileRegistered (cfg : RelayerConfig) (s : Sender) : Relayer → List Event → List ProtoPacketBatch
  | _, [] => []
  | r, e :: es =>
    (if s ∈ r.registeredSenders then builtChunks cfg r e else []) ++
      chunksWhileRegistered cfg s (r.step cfg e).1 es

theorem enqueuedOn_packetArm {r : Relayer} (h : Wf r) (hr : r.loop.running) (s : Sender)
    (maybe : Except RecvError (List (List Packet))) (cache : LookupTableCache)
    (res : Nat → Sender → TrySendResult) :
    (enqueuedOn s (r.packetArm cfg maybe cache res).2).Sublist
      (if s ∈ r.registeredSenders then builtChunks cfg r (.packets maybe cache res) else []) := by
  unfold packetArm
  split
  · rename_i sent hf
    obtain ⟨batches, rfl, hz, rfl⟩ := forwardPackets_ok hf
    split
    · simp only [builtChunks, hr, ne_eq, hz, not_false_eq_true, and_self, if_true]
      exact enqueuedOn_sendBatches res (senders_nodup _ (registered_nodup h) h.slotLeaders_nodup) s 0 _ _
    · rename_i hs
      refine (enqueuedOn_eq_nil fun a ha has _ => absurd ?_ hs).symm ▸ List.nil_sublist _
      obtain ⟨hm, -⟩ := (sendBatches_spec res _ 0 _ _).1 a ha
      exact has ▸ List.mem_map.mpr ⟨_, AList.mem_lookup_iff.mp (mem_senders hm).1, rfl⟩
  · exact List.nil_sublist _

theorem enqueuedOn_heartbeatArm (r : Relayer) (s : Sender) (res : Sender → TrySendResult) :
    enqueuedOn s (r.heartbeatArm res).2 = [] := by
  rw [heartbeatArm_attempts]
  split
  · refine enqueuedOn_eq_nil fun a ha _ _ => ?_
    obtain ⟨p, -, rfl⟩ := List.mem_map.mp ha
    rfl
  · rfl

/-- **Step lemma**: a step enqueues on `s` a sublist of the chunks it builds, and nothing when
`s` is not registered. -/
theorem enqueuedOn_step {r : Relayer} (h : Wf r) (s : Sender) (e : Event) :
    (enqueuedOn s (r.step cfg e).2).Sublist
      (if s ∈ r.registeredSenders then builtChunks cfg r e else []) := by
  have hs := step_shape cfg r e
  generalize r.step cfg e = p at hs ⊢
  cases hs with
  | @packets maybe cache res hr => exact enqueuedOn_packetArm h hr s maybe cache res
  | heartbeat => rw [enqueuedOn_heartbeatArm]; exact List.nil_sublist _
  | _ => exact List.nil_sublist _

/-- **Run lemma.** -/
theorem enqueuedOn_run {r : Relayer} (h : Wf r) (s : Sender) (evs : List Event) :
    (enqueuedOn s (r.run cfg evs).2).Sublist (chunksWhileRegistered cfg s r evs) := by
  induction evs generalizing r with
  | nil => exact List.nil_sublist _
  | cons e evs ih =>
    simp only [run, chunksWhileRegistered, enqueuedOn_append]
    exact (enqueuedOn_step h s e).append (ih (h.step e))

/-- The `Batch`es enqueued on a sender are, in order and each at most once, among the chunks
that `forward_packets` built while the sender was registered. -/
theorem enqueued_sublist_chunks_while_registered (s : Sender) (evs : List Event) :
    (enqueuedOn s (Relayer.init.run cfg evs).2).Sublist (chunksWhileRegistered cfg s Relayer.init evs) :=
  enqueuedOn_run Wf.init s evs

/-! ## After a mass disconnect -/

/-- Every health check of a `subscribe_packets` along the run reads `Unhealthy`. -/
def SubscribeChecksUnhealthy (cfg : RelayerConfig) : Relayer → List Event → Prop
  | _, [] => True
  | r, e :: es => (∀ pk, e = .subscribe pk → r.healthState = .Unhealthy) ∧
      SubscribeChecksUnhealthy cfg (r.step cfg e).1 es

/-- A heartbeat arm that reads `Unhealthy` leaves only the subscriptions in flight. -/
theorem heartbeatArm_unhealthy_allSenders {r : Relayer} (hu : r.healthState = .Unhealthy)
    (res : Sender → TrySendResult) : (r.heartbeatArm res).1.allSenders = r.inflight := by
  have hnil : (r.heartbeatArm res).1.registeredSenders = [] := by
    refine List.eq_nil_iff_forall_not_mem.mpr fun x hx => ?_
    obtain ⟨⟨v, y⟩, hv, rfl⟩ := List.mem_map.mp hx
    have := heartbeatArm_lookup r res v
    rw [hu, AList.mem_lookup_iff.mpr hv] at this
    cases this
  rw [allSenders, hnil]; rfl

/-- Without a `subscribe_packets` that passes its check, a step adds no sender. -/
theorem step_allSenders_subset {r : Relayer} {e : Event}
    (hs : ∀ pk, e = .subscribe pk → r.healthState = .Unhealthy) :
    (r.step cfg e).1.allSenders ⊆ r.allSenders := by
  rcases @step_allSenders cfg r e with ⟨h, -⟩ | ⟨pk, he, hh, -⟩
  · exact h.subset
  · rw [hs _ he] at hh; cases hh

theorem run_attempt_sender_mem {r : Relayer} {evs : List Event} (hs : SubscribeChecksUnhealthy cfg r evs)
    {a : Attempt} (ha : a ∈ (r.run cfg evs).2) : a.sender ∈ r.allSenders := by
  induction evs generalizing r with
  | nil => cases ha
  | cons e evs ih =>
    simp only [run, List.mem_append] at ha
    rcases ha with ha | ha
    · exact List.mem_append_left _ (attempt_sender_mem ha)
    · exact step_allSenders_subset hs.1 (ih hs.2 ha)

/-- After a heartbeat arm that reads `Unhealthy`, while no `subscribe_packets` passes its health
check, every `try_send` goes to a subscription that was in flight at that heartbeat. -/
theorem tried_after_mass_disconnect_only_inflight {r : Relayer} {res : Sender → TrySendResult}
    {post : List Event} (hr : r.loop.running) (hu : r.healthState = .Unhealthy)
    (hs : SubscribeChecksUnhealthy cfg (r.step cfg (.heartbeat res)).1 post) {a : Attempt}
    (ha : a ∈ ((r.step cfg (.heartbeat res)).1.run cfg post).2) : a.sender ∈ r.inflight := by
  have := run_attempt_sender_mem hs ha
  rwa [step_heartbeat hr, heartbeatArm_unhealthy_allSenders hu] at this

/-- A subscription whose health check passed before the mass disconnect is registered after it,
and a packet arm then enqueues a `Batch` on it while the health state stays `Unhealthy`. -/
theorem batch_enqueued_after_mass_disconnect :
    ¬ ∀ (cfg : RelayerConfig) (pre post : List Event) (res : Sender → TrySendResult),
      (Relayer.init.run cfg pre).1.loop.running → (Relayer.init.run cfg pre).1.healthState = .Unhealthy →
      SubscribeChecksUnhealthy cfg ((Relayer.init.run cfg pre).1.step cfg (.heartbeat res)).1 post →
      ∀ a ∈ (((Relayer.init.run cfg pre).1.step cfg (.heartbeat res)).1.run cfg post).2,
        a.result ≠ .ok := fun h =>
  h ⟨5, [], 4, true, ⟨fun _ => none, fun p => some ⟨p.buffer, p.meta⟩⟩⟩
    [.healthWrite .Healthy, .subscribe (some ⟨List.replicate 32 0, rfl⟩), .healthWrite .Unhealthy]
    [.subscribeSend 0, .subscription, .packets (.ok [[⟨[], ⟨0, .V4 0, 0, 0⟩⟩]]) ∅ fun _ _ => .ok]
    (fun _ => .ok) (by decide) (by decide) (by simp [SubscribeChecksUnhealthy])
    ⟨⟨List.replicate 32 0, rfl⟩, ⟨0, 50000⟩, .batch ⟨[⟨[], ⟨0, .V4 0, 0, 0⟩⟩]⟩, .ok⟩ (by decide) rfl

/-- The same run: the `Batch` goes to the subscription in flight at the heartbeat. -/
theorem batch_after_mass_disconnect_goes_inflight :
    (⟨0, 50000⟩ : Sender) ∈ (Relayer.init.run ⟨5, [], 4, true, ⟨fun _ => none,
      fun p => some ⟨p.buffer, p.meta⟩⟩⟩ [.healthWrite .Healthy, .subscribe (some ⟨List.replicate 32 0, rfl⟩),
        .healthWrite .Unhealthy]).1.inflight :=
  @tried_after_mass_disconnect_only_inflight ⟨5, [], 4, true, ⟨fun _ => none,
      fun p => some ⟨p.buffer, p.meta⟩⟩⟩ _ (fun _ => .ok)
    [.subscribeSend 0, .subscription, .packets (.ok [[⟨[], ⟨0, .V4 0, 0, 0⟩⟩]]) ∅ fun _ _ => .ok]
    (by decide) (by decide) (by simp [SubscribeChecksUnhealthy])
    ⟨⟨List.replicate 32 0, rfl⟩, ⟨0, 50000⟩, .batch ⟨[⟨[], ⟨0, .V4 0, 0, 0⟩⟩]⟩, .ok⟩ (by decide)

end Relayer

end JitoRelayer
