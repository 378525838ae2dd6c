import JitoRelayer.Relayer.Forward
import JitoRelayer.Rpc.LoadBalancer

/-!
# The relayer as a system (`relayer/src/relayer.rs`)

The thread of `RelayerImpl::run_event_loop`, the writes of the shared `HealthState`, and the
`subscribe_packets` calls, as one state and one step per event.

* `EventLoop`: the locals of `run_event_loop` (`highest_slot`, `slot_leaders`, the metrics) and
  whether its loop still runs.
* `Relayer`: the loop, the shared `packet_subscriptions` and `HealthState`, the bounded
  subscription channel, and the `subscribe_packets` calls between their `channel(..)` and their
  `send`. Every `channel(..)` gets a new id.
* `Event`: an arm of the `select!` (slot, packet batch, subscription, heartbeat, metrics), a
  write of the health state, one of the two steps of `subscribe_packets`, or the exit flag.
  An arm carries what the thread receives or reads at that moment: the slot and the leader
  schedule snapshot, the packet batches, the lookup-table cache and the `try_send` outcomes.
* `Relayer.step` returns the `try_send`s the step made; `Relayer.run` runs a list of events.
  An arm that cannot fire (the loop has ended, an empty subscription channel) changes nothing.
* `step_subscribe_frame`, `step_subscribeSend_frame`: the two steps of `subscribe_packets` touch
  only the channel, the pending calls and the next id.
* `step_shape`: what one step can do (`StepShape`), said once; the step lemmas of the other
  modules case on it instead of unfolding `Relayer.step`.
-/

namespace JitoRelayer

/-- The locals of `run_event_loop`. -/
structure EventLoop where
  highestSlot : Nat
  slotLeaders : List Pubkey
  metrics : RelayerMetrics
  running : Bool

/-- The relayer's state. -/
structure Relayer where
  loop : EventLoop
  packetSubscriptions : PacketSubscriptions
  healthState : HealthState
  /-- The subscriptions queued on `subscription_sender`, oldest first. -/
  subscriptionChannel : List Subscription
  /-- The `subscribe_packets` calls past `channel(..)`, before their `send`. -/
  pending : List Subscription
  /-- The id the next `channel(..)` gets. -/
  nextChannel : Nat

/-- `RelayerImpl::new`: no subscriber, and the health manager's initial `Unhealthy`. -/
def Relayer.init : Relayer :=
  ⟨⟨0, [], RelayerMetrics.new, true⟩, ∅, .Unhealthy, [], [], 0⟩

/-- One step of the system. -/
inductive Event
  /-- The slot arm, with the leader schedule that `leaders_for_slots` reads. -/
  | slot (maybeSlot : Except RecvError Nat) (schedule : LeaderSchedule)
  /-- The packet arm, with the lookup-table cache and the outcome of each `try_send` (by chunk
  index and sender). -/
  | packets (maybePacketBatches : Except RecvError (List (List Packet))) (cache : LookupTableCache)
      (res : Nat → Sender → TrySendResult)
  /-- The subscription arm: it takes the oldest queued subscription. -/
  | subscription
  /-- The heartbeat arm, with the outcome of each `try_send`. -/
  | heartbeat (res : Sender → TrySendResult)
  /-- The metrics arm. -/
  | metrics
  /-- The health manager writes the shared state. -/
  | healthWrite (h : HealthState)
  /-- `subscribe_packets` from the identity the interceptor attached, up to `channel(..)`. -/
  | subscribe (pubkey : Option Pubkey)
  /-- The `i`-th pending `subscribe_packets` call sends its subscription. -/
  | subscribeSend (i : Nat)
  /-- The exit flag is set. -/
  | exit

namespace Relayer

variable (cfg : RelayerConfig)

/-- The loop returns. -/
def stop (r : Relayer) : Relayer := { r with loop := { r.loop with running := false } }

/-- The slot arm. -/
def slotArm (r : Relayer) (maybeSlot : Except RecvError Nat) (schedule : LeaderSchedule) :
    Relayer :=
  match updateHighestSlot maybeSlot r.loop.metrics with
  | .ok (h, m) =>
    { r with loop := { r.loop with
        highestSlot := h
        metrics := m
        slotLeaders := schedule.leadersForSlots (lookaheadSlots h cfg.slotLookahead) } }
  | .error _ => r.stop

/-- The packet arm: `forward_packets`, then `drop_connections` of the failed pubkeys. -/
def packetArm (r : Relayer) (maybePacketBatches : Except RecvError (List (List Packet)))
    (cache : LookupTableCache) (res : Nat → Sender → TrySendResult) : Relayer × List Attempt :=
  match forwardPackets cfg maybePacketBatches r.packetSubscriptions r.loop.slotLeaders
      r.loop.metrics cache res with
  | .ok sent =>
    let d := dropConnections sent.failedForwards r.packetSubscriptions sent.metrics
    ({ r with packetSubscriptions := d.1, loop := { r.loop with metrics := d.2 } }, sent.attempts)
  | .error _ => (r.stop, [])

/-- The subscription arm on the oldest queued subscription. -/
def subscriptionArm (r : Relayer) : Relayer :=
  match r.subscriptionChannel with
  | [] => r
  | sub :: rest =>
    match handleSubscription (.ok sub) r.packetSubscriptions r.loop.metrics with
    | .ok (subs, m) =>
      { r with subscriptionChannel := rest, packetSubscriptions := subs,
               loop := { r.loop with metrics := m } }
    | .error _ => r.stop

/-- The pubkeys the heartbeat arm disconnects, its metrics and its `try_send`s: a heartbeat to
every subscriber when healthy, every subscriber when not. -/
def heartbeatSent (r : Relayer) (res : Sender → TrySendResult) : Sent :=
  match r.healthState with
  | .Healthy => handleHeartbeat res r.packetSubscriptions r.loop.metrics
  | .Unhealthy => ⟨r.loop.metrics, r.packetSubscriptions.keys, []⟩

/-- The heartbeat arm. -/
def heartbeatArm (r : Relayer) (res : Sender → TrySendResult) : Relayer × List Attempt :=
  let s := r.heartbeatSent res
  let d := dropConnections s.failedForwards r.packetSubscriptions s.metrics
  ({ r with packetSubscriptions := d.1, loop := { r.loop with metrics := d.2 } }, s.attempts)

/-- One step of the system, and the `try_send`s it made. -/
def step (r : Relayer) : Event → Relayer × List Attempt
  | .slot maybeSlot schedule => (if r.loop.running then r.slotArm cfg maybeSlot schedule else r, [])
  | .packets maybe cache res => if r.loop.running then r.packetArm cfg maybe cache res else (r, [])
  | .subscription => (if r.loop.running then r.subscriptionArm else r, [])
  | .heartbeat res => if r.loop.running then r.heartbeatArm res else (r, [])
  | .metrics =>
    (if r.loop.running then { r with loop := { r.loop with metrics := RelayerMetrics.new } } else r, [])
  | .healthWrite h => ({ r with healthState := h }, [])
  | .subscribe pubkey =>
    match r.healthState, pubkey with
    | .Healthy, some pk =>
      ({ r with pending := r.pending ++ [⟨pk, ⟨r.nextChannel, subscriberQueueCapacity⟩⟩],
                nextChannel := r.nextChannel + 1 }, [])
    | _, _ => (r, [])
  | .subscribeSend i =>
    match r.pending.get? i with
    | some sub =>
      if !r.loop.running then ({ r with pending := r.pending.erase sub }, [])
      else if r.subscriptionChannel.length < slotQueueCapacity then
        ({ r with pending := r.pending.erase sub, subscriptionChannel := r.subscriptionChannel ++ [sub] }, [])
      else (r, [])
    | none => (r, [])
  | .exit => (r.stop, [])

/-- A run: the steps one after the other, and their `try_send`s in order. -/
def run (r : Relayer) : List Event → Relayer × List Attempt
  | [] => (r, [])
  | e :: es =>
    let p := r.step cfg e
    let q := run p.1 es
    (q.1, p.2 ++ q.2)

theorem run_append (r : Relayer) (xs ys : List Event) :
    r.run cfg (xs ++ ys) =
      ((r.run cfg xs).1.run cfg ys |>.1, (r.run cfg xs).2 ++ ((r.run cfg xs).1.run cfg ys).2) := by
  induction xs generalizing r with
  | nil => rfl
  | cons x xs ih => simp [run, ih]

theorem run_snoc (r : Relayer) (xs : List Event) (e : Event) :
    r.run cfg (xs ++ [e]) =
      (((r.run cfg xs).1.step cfg e).1, (r.run cfg xs).2 ++ ((r.run cfg xs).1.step cfg e).2) := by
  simp [run_append, run]

/-- The first step of `subscribe_packets` changes only the pending calls and the next id, and
sends nothing. -/
theorem step_subscribe_frame (r : Relayer) (pubkey : Option Pubkey) :
    ∃ p n, r.step cfg (.subscribe pubkey) = ({ r with pending := p, nextChannel := n }, []) := by
  simp only [step]
  split <;> exact ⟨_, _, rfl⟩

/-- The `send` of `subscribe_packets` changes only the subscription channel and the pending
calls, and sends nothing. -/
theorem step_subscribeSend_frame (r : Relayer) (i : Nat) :
    ∃ ch p, r.step cfg (.subscribeSend i) = ({ r with subscriptionChannel := ch, pending := p }, []) := by
  simp only [step]
  split
  · split
    · exact ⟨_, _, rfl⟩
    · split <;> exact ⟨_, _, rfl⟩
  · exact ⟨_, _, rfl⟩

/-- What one step can do: an arm of a running loop, a health write, one of the two steps of
`subscribe_packets`, the exit flag, or nothing. -/
inductive StepShape (r : Relayer) : Event → Relayer × List Attempt → Prop
  | slot {maybeSlot schedule} (hr : r.loop.running) :
      StepShape r (.slot maybeSlot schedule) (r.slotArm cfg maybeSlot schedule, [])
  | packets {maybe cache res} (hr : r.loop.running) :
      StepShape r (.packets maybe cache res) (r.packetArm cfg maybe cache res)
  | subscription (hr : r.loop.running) : StepShape r .subscription (r.subscriptionArm, [])
  | heartbeat {res} (hr : r.loop.running) : StepShape r (.heartbeat res) (r.heartbeatArm res)
  | metrics (hr : r.loop.running) :
      StepShape r .metrics ({ r with loop := { r.loop with metrics := RelayerMetrics.new } }, [])
  | healthWrite {h} : StepShape r (.healthWrite h) ({ r with healthState := h }, [])
  | subscribe {pk} (hh : r.healthState = .Healthy) :
      StepShape r (.subscribe (some pk))
        ({ r with pending := r.pending ++ [⟨pk, ⟨r.nextChannel, subscriberQueueCapacity⟩⟩],
                  nextChannel := r.nextChannel + 1 }, [])
  | subscribeDropped {i sub} (hsub : r.pending.get? i = some sub) (hr : r.loop.running = false) :
      StepShape r (.subscribeSend i) ({ r with pending := r.pending.erase sub }, [])
  | subscribeSent {i sub} (hsub : r.pending.get? i = some sub) (hr : r.loop.running)
      (hroom : r.subscriptionChannel.length < slotQueueCapacity) :
      StepShape r (.subscribeSend i)
        ({ r with pending := r.pending.erase sub, subscriptionChannel := r.subscriptionChannel ++ [sub] }, [])
  | exit : StepShape r .exit (r.stop, [])
  | idle {e} : StepShape r e (r, [])

/-- **Every step has one of the shapes.** -/
theorem step_shape (r : Relayer) (e : Event) : StepShape cfg r e (r.step cfg e) := by
  cases e with
  | slot => simp only [step]; split; exacts [.slot ‹_›, .idle]
  | packets => simp only [step]; split; exacts [.packets ‹_›, .idle]
  | subscription => simp only [step]; split; exacts [.subscription ‹_›, .idle]
  | heartbeat => simp only [step]; split; exacts [.heartbeat ‹_›, .idle]
  | metrics => simp only [step]; split; exacts [.metrics ‹_›, .idle]
  | healthWrite h => exact .healthWrite
  | subscribe => simp only [step]; split; exacts [.subscribe ‹_›, .idle]
  | subscribeSend i =>
    simp only [step]
    split
    · rename_i sub hsub
      by_cases hr : r.loop.running
      · rw [if_neg (by simpa using hr)]
        split
        · exact .subscribeSent hsub hr ‹_›
        · exact .idle
      · rw [if_pos (by simpa using hr)]
        exact .subscribeDropped hsub (by simpa using hr)
    · exact .idle
  | exit => exact .exit

/-! ## What each arm does -/

section Arms

variable {cfg}

@[simp] theorem stop_packetSubscriptions (r : Relayer) : r.stop.packetSubscriptions = r.packetSubscriptions :=
  rfl

@[simp] theorem stop_slotLeaders (r : Relayer) : r.stop.loop.slotLeaders = r.loop.slotLeaders := rfl

@[simp] theorem stop_running (r : Relayer) : r.stop.loop.running = false := rfl

theorem slotArm_packetSubscriptions (r : Relayer) (maybeSlot : Except RecvError Nat)
    (schedule : LeaderSchedule) :
    (r.slotArm cfg maybeSlot schedule).packetSubscriptions = r.packetSubscriptions := by
  unfold slotArm; split <;> rfl

/-- Every `try_send` of the packet arm is a `Batch` to one of the `senders` of
`forward_packets`. -/
theorem packetArm_attempt {r : Relayer} {maybe : Except RecvError (List (List Packet))}
    {cache : LookupTableCache} {res : Nat → Sender → TrySendResult} {a : Attempt}
    (ha : a ∈ (r.packetArm cfg maybe cache res).2) :
    (a.pubkey, a.sender) ∈ senders r.packetSubscriptions r.loop.slotLeaders cfg.forwardAll ∧
      ∃ b, a.msg = .batch b := by
  unfold packetArm at ha
  split at ha
  · rename_i sent hf
    obtain ⟨_, -, -, rfl⟩ := forwardPackets_ok hf
    obtain ⟨h, b, -, hb⟩ := (sendBatches_spec res _ 0 _ _).1 a ha
    exact ⟨h, b, hb⟩
  · simp at ha

/-- The packet arm keeps a registration, or removes it after a `Closed` `try_send` to its
pubkey. -/
theorem packetArm_lookup (r : Relayer) (maybe : Except RecvError (List (List Packet)))
    (cache : LookupTableCache) (res : Nat → Sender → TrySendResult) (v : Pubkey) :
    (r.packetArm cfg maybe cache res).1.packetSubscriptions.lookup v = r.packetSubscriptions.lookup v ∨
      ∃ a ∈ (r.packetArm cfg maybe cache res).2, a.pubkey = v ∧ a.result = .closed := by
  unfold packetArm
  split
  · rename_i sent hf
    simp only [lookup_dropConnections]
    split
    · rename_i hv
      obtain ⟨_, -, -, rfl⟩ := forwardPackets_ok hf
      exact .inr ((sendBatches_spec res _ 0 _ _).2 v hv)
    · exact .inl rfl
  · exact .inl rfl

theorem packetArm_slotLeaders (r : Relayer) (maybe : Except RecvError (List (List Packet)))
    (cache : LookupTableCache) (res : Nat → Sender → TrySendResult) :
    (r.packetArm cfg maybe cache res).1.loop.slotLeaders = r.loop.slotLeaders := by
  unfold packetArm; split <;> rfl

/-- The heartbeat arm sends a `Heartbeat` to every subscriber when healthy, nothing when not. -/
theorem heartbeatArm_attempts (r : Relayer) (res : Sender → TrySendResult) :
    (r.heartbeatArm res).2 = match r.healthState with
      | .Healthy => r.packetSubscriptions.pairs.map (heartbeatAttempt res r.loop.metrics.numHeartbeats)
      | .Unhealthy => [] := by
  simp only [heartbeatArm, heartbeatSent]
  split <;> simp [handleHeartbeat, sendHeartbeats_attempts]

/-- The heartbeat arm unregisters the subscribers whose queue is closed when healthy, every
subscriber when not. -/
theorem heartbeatArm_lookup (r : Relayer) (res : Sender → TrySendResult) (v : Pubkey) :
    (r.heartbeatArm res).1.packetSubscriptions.lookup v = match r.healthState with
      | .Healthy => if v ∈ closedPubkeys res r.packetSubscriptions.pairs then none
          else r.packetSubscriptions.lookup v
      | .Unhealthy => none := by
  simp only [heartbeatArm, lookup_dropConnections]
  cases h : r.healthState with
  | Healthy => simp [heartbeatSent, h, handleHeartbeat, sendHeartbeats_failedForwards]
  | Unhealthy =>
    simp only [heartbeatSent, h]
    split
    · rfl
    · rename_i hv
      exact AList.lookup_eq_none.mpr fun hm => hv (AList.mem_keys.mp hm)

theorem heartbeatArm_slotLeaders (r : Relayer) (res : Sender → TrySendResult) :
    (r.heartbeatArm res).1.loop.slotLeaders = r.loop.slotLeaders := rfl

theorem handleSubscription_ok (sub : Subscription) (subs : PacketSubscriptions) (m : RelayerMetrics) :
    ∃ m', handleSubscription (.ok sub) subs m = .ok (subs.insert sub.pubkey sub.sender, m') := by
  simp only [handleSubscription]
  split <;> exact ⟨_, rfl⟩

/-- The subscription arm registers the oldest queued subscription's sender for its pubkey. -/
theorem subscriptionArm_lookup (r : Relayer) (v : Pubkey) :
    r.subscriptionArm.packetSubscriptions.lookup v = match r.subscriptionChannel with
      | [] => r.packetSubscriptions.lookup v
      | sub :: _ => if v = sub.pubkey then some sub.sender else r.packetSubscriptions.lookup v := by
  unfold subscriptionArm
  split
  · rfl
  · rename_i sub rest _
    obtain ⟨m', hm⟩ := handleSubscription_ok sub r.packetSubscriptions r.loop.metrics
    rw [hm]
    by_cases hv : v = sub.pubkey
    · subst hv; simp
    · simp [hv, AList.lookup_insert_ne hv]

theorem subscriptionArm_slotLeaders (r : Relayer) :
    r.subscriptionArm.loop.slotLeaders = r.loop.slotLeaders := by
  unfold subscriptionArm
  split
  · rfl
  · split <;> rfl

theorem subscriptionArm_nextChannel (r : Relayer) : r.subscriptionArm.nextChannel = r.nextChannel := by
  unfold subscriptionArm
  split
  · rfl
  · split <;> rfl

end Arms

end Relayer

end JitoRelayer
