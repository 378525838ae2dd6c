import JitoRelayer.Relayer.EventLoop

/-!
# Who receives what, and who is disconnected

Properties of every run of the relayer (`Relayer.run` from `Relayer.init`), whatever the order
of the event loop's arms, the health writes and the `subscribe_packets` calls, and whatever the
`try_send` outcomes.

* `step_slotLeaders`, `run_slotLeaders`: only a slot arm of a running loop changes
  `slot_leaders`, so while the loop runs it is what the most recent slot arm computed
  (`lastSlotArm`), and empty before the first one.
* `batch_recipient_leads_lookahead`: every `Batch` goes to the sender registered for its pubkey,
  and without `forward_all` that pubkey leads a slot of `[h, h + slot_lookahead)` in the
  schedule the most recent slot arm read.
* `unregistered_only_by_closed_unhealthy_or_replaced`: a registration ends only by a `Closed`
  `try_send` to that very sender, an unhealthy heartbeat, or a new sender for the pubkey.
-/

namespace JitoRelayer

/-- The slot and the schedule a slot arm received. -/
def Event.slotReceived : Event → Option (Nat × LeaderSchedule)
  | .slot (.ok h) schedule => some (h, schedule)
  | _ => none

/-- The slot and the schedule of the most recent slot arm of a list of events. -/
def lastSlotArm (evs : List Event) : Option (Nat × LeaderSchedule) :=
  evs.reverse.findSome? Event.slotReceived

theorem lastSlotArm_snoc (evs : List Event) (e : Event) :
    lastSlotArm (evs ++ [e]) = e.slotReceived.or (lastSlotArm evs) := by
  simp only [lastSlotArm, List.reverse_append, List.reverse_singleton, List.singleton_append,
    List.findSome?_cons]
  cases e.slotReceived <;> rfl

/-- The leaders a slot arm computes from its slot and schedule. -/
def lookaheadLeaders (cfg : RelayerConfig) : Option (Nat × LeaderSchedule) → List Pubkey
  | none => []
  | some (h, schedule) => schedule.leadersForSlots (lookaheadSlots h cfg.slotLookahead)

theorem mem_lookaheadLeaders {cfg : RelayerConfig} {x : Option (Nat × LeaderSchedule)}
    {pk : Pubkey} (h : pk ∈ lookaheadLeaders cfg x) :
    ∃ h schedule, x = some (h, schedule) ∧
      ∃ s, h ≤ s ∧ s < h + cfg.slotLookahead ∧ schedule.lookup s = some pk := by
  match x, h with
  | some (h, schedule), hm =>
    obtain ⟨s, hs, hl⟩ := LeaderSchedule.mem_leadersForSlots.mp hm
    obtain ⟨h1, h2⟩ := mem_lookaheadSlots hs
    exact ⟨h, schedule, rfl, s, h1, h2, hl⟩

namespace Relayer

variable {cfg : RelayerConfig}

/-- The loop never starts again. -/
theorem step_running {r : Relayer} {e : Event} (h : (r.step cfg e).1.loop.running) :
    r.loop.running := by
  cases e with
  | subscribe pk => obtain ⟨p, n, he⟩ := step_subscribe_frame cfg r pk; rwa [he] at h
  | subscribeSend i => obtain ⟨ch, p, he⟩ := step_subscribeSend_frame cfg r i; rwa [he] at h
  | exit => simp [step] at h
  | _ => by_contra hr; simp_all [step]

/-- A step changes `slot_leaders` only by a slot arm of a running loop, to what it computes. -/
theorem step_slotLeaders (r : Relayer) (e : Event) :
    (r.step cfg e).1.loop.slotLeaders =
      match e.slotReceived, r.loop.running with
      | some x, true => lookaheadLeaders cfg (some x)
      | _, _ => r.loop.slotLeaders := by
  cases e with
  | slot maybeSlot schedule =>
    cases maybeSlot <;> cases hr : r.loop.running <;>
      simp [step, hr, slotArm, updateHighestSlot, Event.slotReceived, lookaheadLeaders]
  | subscribe pk => obtain ⟨p, n, he⟩ := step_subscribe_frame cfg r pk; rw [he]; rfl
  | subscribeSend i => obtain ⟨ch, p, he⟩ := step_subscribeSend_frame cfg r i; rw [he]; rfl
  | _ =>
    cases hr : r.loop.running <;> simp [step, hr, Event.slotReceived, packetArm_slotLeaders,
      subscriptionArm_slotLeaders, heartbeatArm_slotLeaders]

/-- **`slot_leaders` is the most recent slot arm's.** While the loop runs, `slot_leaders` is
`leaders_for_slots` of the lookahead of the most recent slot, in the schedule that arm read;
before the first slot arm it is empty. -/
theorem run_slotLeaders (evs : List Event) (h : (Relayer.init.run cfg evs).1.loop.running) :
    (Relayer.init.run cfg evs).1.loop.slotLeaders = lookaheadLeaders cfg (lastSlotArm evs) := by
  induction evs using List.reverseRecOn with
  | nil => rfl
  | append_singleton evs e ih =>
    rw [run_snoc] at h ⊢
    have hr := step_running h
    rw [step_slotLeaders, hr, lastSlotArm_snoc]
    cases e.slotReceived with
    | some x => rfl
    | none => exact ih hr

theorem step_packets {r : Relayer} (hr : r.loop.running)
    (maybe : Except RecvError (List (List Packet))) (cache : LookupTableCache)
    (res : Nat → Sender → TrySendResult) :
    r.step cfg (.packets maybe cache res) = r.packetArm cfg maybe cache res := by
  simp [step, hr]

theorem step_heartbeat {r : Relayer} (hr : r.loop.running) (res : Sender → TrySendResult) :
    r.step cfg (.heartbeat res) = r.heartbeatArm res := by
  simp [step, hr]

/-- A `try_send` of a step is made by a running loop, to the sender registered for its pubkey;
one with a `Batch` goes to one of the `senders` of `forward_packets`. -/
theorem mem_step_attempts {r : Relayer} {e : Event} {a : Attempt} (ha : a ∈ (r.step cfg e).2) :
    r.loop.running ∧ r.packetSubscriptions.lookup a.pubkey = some a.sender ∧
      ((∃ b, a.msg = .batch b) →
        (a.pubkey, a.sender) ∈ senders r.packetSubscriptions r.loop.slotLeaders cfg.forwardAll) := by
  have hs := step_shape cfg r e
  generalize r.step cfg e = p at hs ha
  cases hs with
  | packets hr =>
    obtain ⟨hs, -⟩ := packetArm_attempt ha
    exact ⟨hr, (mem_senders hs).1, fun _ => hs⟩
  | heartbeat hr =>
    rw [heartbeatArm_attempts] at ha
    split at ha
    · obtain ⟨p, hp, rfl⟩ := List.mem_map.mp ha
      exact ⟨hr, PacketSubscriptions.mem_pairs.mp hp, fun ⟨b, hb⟩ => by cases hb⟩
    · simp at ha
  | _ => simp at ha

/-- **Leader-gated routing.** In every run, every `Batch` that `forward_packets` tries to send
goes to the sender currently registered for its pubkey; without `forward_all` that pubkey leads
a slot of `[h, h + slot_lookahead)` in the schedule `leaders_for_slots` read, where `h` is the
slot of the most recent slot arm, and before the first slot arm no `Batch` is sent. -/
theorem batch_recipient_leads_lookahead (evs : List Event) (e : Event) {a : Attempt}
    (ha : a ∈ ((Relayer.init.run cfg evs).1.step cfg e).2) (hb : ∃ b, a.msg = .batch b) :
    (Relayer.init.run cfg evs).1.packetSubscriptions.lookup a.pubkey = some a.sender ∧
    (cfg.forwardAll = false → ∃ h schedule, lastSlotArm evs = some (h, schedule) ∧
      ∃ s, h ≤ s ∧ s < h + cfg.slotLookahead ∧ schedule.lookup s = some a.pubkey) := by
  obtain ⟨hr, hl, hs⟩ := mem_step_attempts ha
  refine ⟨hl, fun hf => mem_lookaheadLeaders ?_⟩
  rw [← run_slotLeaders evs hr]
  exact (mem_senders (hs hb)).2 hf

/-- A validator that subscribed and leads slot `1`, and a packet arm after a slot arm at `0`. -/
theorem batch_recipient_leads_lookahead_run :
    let cfg : RelayerConfig := ⟨4, [], 4, false, ⟨fun _ => none, fun p => some ⟨p.buffer, p.meta⟩⟩⟩
    let pk : Pubkey := ⟨List.replicate 32 0, rfl⟩
    let evs : List Event := [.healthWrite .Healthy, .subscribe (some pk), .subscribeSend 0,
      .subscription, .slot (.ok 0) ((∅ : LeaderSchedule).insert 1 pk)]
    (Relayer.init.run cfg evs).1.packetSubscriptions.lookup pk = some ⟨0, 50000⟩ ∧
    (cfg.forwardAll = false → ∃ h schedule, lastSlotArm evs = some (h, schedule) ∧
      ∃ s, h ≤ s ∧ s < h + cfg.slotLookahead ∧ schedule.lookup s = some pk) :=
  @batch_recipient_leads_lookahead _ _ (.packets (.ok [[⟨[], ⟨0, .V4 0, 0, 0⟩⟩]]) ∅ fun _ _ => .ok)
    ⟨⟨List.replicate 32 0, rfl⟩, ⟨0, 50000⟩, .batch ⟨[⟨[], ⟨0, .V4 0, 0, 0⟩⟩]⟩, .ok⟩ (by decide) ⟨_, rfl⟩

/-- **No spurious disconnects.** If a step ends the registration of sender `x` for `v`, then in
that step a `try_send` to `x` returned `Closed`, or the heartbeat arm read `Unhealthy`, or the
subscription arm registered another sender for `v`. -/
theorem unregistered_only_by_closed_unhealthy_or_replaced {r : Relayer} {e : Event} {v : Pubkey}
    {x : Sender} (hin : r.packetSubscriptions.lookup v = some x)
    (hout : (r.step cfg e).1.packetSubscriptions.lookup v ≠ some x) :
    (∃ a ∈ (r.step cfg e).2, a.pubkey = v ∧ a.sender = x ∧ a.result = .closed) ∨
    (∃ res, e = .heartbeat res ∧ r.loop.running ∧ r.healthState = .Unhealthy) ∨
    (e = .subscription ∧ r.loop.running ∧ ∃ y, y ≠ x ∧
      (r.step cfg e).1.packetSubscriptions.lookup v = some y ∧
      r.subscriptionChannel.head? = some ⟨v, y⟩) := by
  have hs := step_shape cfg r e
  generalize r.step cfg e = p at hs hout ⊢
  cases hs with
  | @packets maybe cache res hr =>
    rcases packetArm_lookup r maybe cache res v with hl | ⟨a, ha, rfl, hc⟩
    · exact absurd (hl.trans hin) hout
    · have hx := (@mem_step_attempts cfg r (.packets maybe cache res) a
        (by rwa [step_packets hr])).2.1
      exact .inl ⟨a, ha, rfl, Option.some.inj (hx.symm.trans hin), hc⟩
  | subscription hr =>
    rw [subscriptionArm_lookup] at hout ⊢
    split at hout
    · exact absurd hin hout
    · rename_i sub rest hc
      split_ifs at hout with hv
      · subst hv
        exact .inr (.inr ⟨rfl, hr, sub.sender, fun h => hout (h ▸ rfl), by simp [hc], by simp [hc]⟩)
      · exact absurd hin hout
  | @heartbeat res hr =>
    rw [heartbeatArm_lookup] at hout
    cases hh : r.healthState with
    | Unhealthy => exact .inr (.inl ⟨res, rfl, hr, rfl⟩)
    | Healthy =>
      simp only [hh] at hout
      split at hout
      · rename_i hv
        obtain ⟨s, hs, hc⟩ := mem_closedPubkeys hv
        have hsx : s = x := Option.some.inj ((PacketSubscriptions.mem_pairs.mp hs).symm.trans hin)
        subst hsx
        refine .inl ⟨heartbeatAttempt res r.loop.metrics.numHeartbeats (v, s), ?_, rfl, rfl, hc⟩
        rw [heartbeatArm_attempts, hh]
        exact List.mem_map_of_mem _ hs
      · exact absurd hin hout
  | slot => rw [slotArm_packetSubscriptions] at hout; exact absurd hin hout
  | _ => exact absurd hin hout

/-- A healthy heartbeat arm whose `try_send` to the only subscriber returns `Closed`. -/
theorem unregistered_after_closed_heartbeat :
    let cfg : RelayerConfig := ⟨0, [], 1, false, ⟨fun _ => none, fun _ => none⟩⟩
    let v : Pubkey := ⟨List.replicate 32 0, rfl⟩
    let x : Sender := ⟨0, 50000⟩
    let r : Relayer := ⟨⟨0, [], RelayerMetrics.new, true⟩, (∅ : PacketSubscriptions).insert v x,
      .Healthy, [], [], 1⟩
    let e : Event := .heartbeat fun _ => .closed
    (∃ a ∈ (r.step cfg e).2, a.pubkey = v ∧ a.sender = x ∧ a.result = .closed) ∨
    (∃ res, e = .heartbeat res ∧ r.loop.running ∧ r.healthState = .Unhealthy) ∨
    (e = .subscription ∧ r.loop.running ∧ ∃ y, y ≠ x ∧
      (r.step cfg e).1.packetSubscriptions.lookup v = some y ∧
      r.subscriptionChannel.head? = some ⟨v, y⟩) :=
  unregistered_only_by_closed_unhealthy_or_replaced (by decide) (by decide)

end Relayer

end JitoRelayer
