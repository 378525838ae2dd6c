import JitoRelayer.Relayer.EventLoop
import JitoRelayer.Relayer.HealthManager

/-!
# The slot stream, from the load balancer to the relayer's `highest_slot`

The load balancer's threads send slots on the bounded `slot_sender`; the health manager
receives them and forwards each on its own `slot_sender`; the slot arm of the relayer's event
loop receives them and `update_highest_slot` assigns each to `highest_slot`. All three run at
once, and a step of one of them is a step of the whole.

* `SlotPipeline.step_conserves`, `SlotPipeline.run_conserves`: the slots queued between the load
  balancer and the relayer, followed by what the load balancer sends, are what the relayer
  assigns followed by what is queued after.
* `issued_step`, `issued_run`: the load balancer's `Issued` holds along the whole system.
* `assigned_prefix_sent`, `assigned_nodup`: the relayer assigns a prefix of the slots the load
  balancer sent, in order, and never the same slot twice.
* `highest_slot_regresses`: a schedule of two load-balancer threads after which the relayer
  assigns `11` and then `10`.
-/

namespace JitoRelayer

/-- The three threads of the slot stream and the channel between the health manager and the
relayer. -/
structure SlotPipeline where
  lb : LoadBalancer
  hm : HealthManager
  /-- The slots queued on the health manager's `slot_sender`, oldest first. -/
  slots : List Nat
  relayer : Relayer

/-- The three started together: the load balancer on `servers`, the health manager's thread at
`start`, and `RelayerImpl::new`. -/
def SlotPipeline.init (servers : List (String × String)) (start : Nat) : SlotPipeline :=
  ⟨LoadBalancer.new servers, HealthManager.new start, [], Relayer.init⟩

/-- A step of one of the threads. -/
inductive PipelineEvent
  | lb (a : LbAction)
  | hm (e : HmEvent)
  /-- The slot arm of the event loop takes the oldest slot, with this leader schedule. -/
  | relayerSlot (schedule : LeaderSchedule)

namespace SlotPipeline

variable (cfg : RelayerConfig) (threshold : Nat)

/-- The slots between the load balancer and the relayer, oldest first. -/
def queued (p : SlotPipeline) : List Nat :=
  p.slots ++ p.hm.holding.toList ++ p.lb.slotSender

/-- One step, with the slots the load balancer sent and the values the relayer assigned to
`highest_slot`. -/
def step (p : SlotPipeline) : PipelineEvent → SlotPipeline × List Nat × List Nat
  | .lb a => ({ p with lb := (p.lb.step a).1 }, (p.lb.step a).2, [])
  | .hm e =>
    match p.hm.step threshold p.lb.slotSender p.slots e with
    | some (hm, inbox, outbox) =>
      ({ p with hm := hm, lb := { p.lb with slotSender := inbox }, slots := outbox }, [], [])
    | none => (p, [], [])
  | .relayerSlot schedule =>
    match p.slots, p.relayer.loop.running with
    | s :: rest, true =>
      let r := (p.relayer.step cfg (.slot (.ok s) schedule)).1
      ({ p with slots := rest, relayer := r }, [], [r.loop.highestSlot])
    | _, _ => (p, [], [])

/-- A schedule of steps: the slots sent and the values assigned, in order. -/
def run (p : SlotPipeline) : List PipelineEvent → SlotPipeline × List Nat × List Nat
  | [] => (p, [], [])
  | e :: es =>
    let q := p.step cfg threshold e
    let r := run q.1 es
    (r.1, q.2.1 ++ r.2.1, q.2.2 ++ r.2.2)

/-- The slot arm of a running loop assigns the slot it receives. -/
theorem slot_highestSlot {r : Relayer} (hr : r.loop.running) (s : Nat) (schedule : LeaderSchedule) :
    (r.step cfg (.slot (.ok s) schedule)).1.loop.highestSlot = s := by
  simp [Relayer.step, hr, Relayer.slotArm, updateHighestSlot]

/-- **Step lemma**: no slot is lost, added or reordered between the two ends. -/
theorem step_conserves (p : SlotPipeline) (e : PipelineEvent) :
    p.queued ++ (p.step cfg threshold e).2.1 =
      (p.step cfg threshold e).2.2 ++ (p.step cfg threshold e).1.queued := by
  cases e with
  | lb a => simp [step, queued, LoadBalancer.step_slotSender]
  | hm e =>
    simp only [step]
    split
    · rename_i hm inbox outbox h
      simpa [queued] using (HealthManager.step_fifo h).symm
    · simp
  | relayerSlot schedule =>
    simp only [step]
    split
    · rename_i s rest hs hr
      simp [queued, hs, slot_highestSlot cfg hr]
    · simp

/-- **Run lemma.** -/
theorem run_conserves (p : SlotPipeline) (es : List PipelineEvent) :
    p.queued ++ (p.run cfg threshold es).2.1 =
      (p.run cfg threshold es).2.2 ++ (p.run cfg threshold es).1.queued := by
  induction es generalizing p with
  | nil => simp [run]
  | cons e es ih =>
    simp only [run]
    rw [← List.append_assoc, step_conserves, List.append_assoc, ih, List.append_assoc]

/-- End to end FIFO: the relayer assigns a prefix of the slots the load balancer sent. -/
theorem assigned_prefix_sent (servers : List (String × String)) (start : Nat)
    (es : List PipelineEvent) :
    ((init servers start).run cfg threshold es).2.2 <+: ((init servers start).run cfg threshold es).2.1 :=
  ⟨_, by simpa [queued, init, LoadBalancer.new, HealthManager.new] using
    (run_conserves cfg threshold (init servers start) es).symm⟩

/-- The load balancer's `Issued` along one step of the system: its own steps keep it
(`LoadBalancer.Issued.step`), and the other threads only take slots off its channel, which
`Issued` does not read. -/
theorem issued_step {p : SlotPipeline} {sent : List Nat} (h : LoadBalancer.Issued p.lb sent)
    (e : PipelineEvent) :
    LoadBalancer.Issued (p.step cfg threshold e).1.lb (sent ++ (p.step cfg threshold e).2.1) := by
  cases e with
  | lb a => exact h.step a
  | hm e => simp only [step]; split <;> simpa using h
  | relayerSlot schedule => simp only [step]; split <;> simpa using h

/-- **Run lemma.** -/
theorem issued_run {p : SlotPipeline} {sent : List Nat} (h : LoadBalancer.Issued p.lb sent)
    (es : List PipelineEvent) :
    LoadBalancer.Issued (p.run cfg threshold es).1.lb (sent ++ (p.run cfg threshold es).2.1) := by
  induction es generalizing p sent with
  | nil => simpa [run] using h
  | cons e es ih => simpa [run, List.append_assoc] using ih (issued_step cfg threshold h e)

/-- **No duplicates**: the relayer never assigns the same slot twice. -/
theorem assigned_nodup (servers : List (String × String)) (start : Nat) (es : List PipelineEvent) :
    ((init servers start).run cfg threshold es).2.2.Nodup := by
  have h := @issued_run cfg threshold (init servers start) [] (LoadBalancer.Issued.new servers) es
  have hc := run_conserves cfg threshold (init servers start) es
  simp only [queued, init, LoadBalancer.new, HealthManager.new, List.nil_append,
    Option.toList_none] at hc
  exact (hc ▸ List.sublist_append_left _ _ : List.Sublist _ _).nodup (by simpa using h.1)

/-- Thread 1 raises `highest_slot` to `11` and sends while thread 0, past its `fetch_max` with
`10`, has not sent yet: the relayer assigns `11` and then `10`. -/
theorem highest_slot_regresses :
    ((init [("http0", "ws0"), ("http1", "ws1")] 0).run ⟨0, [], 1, false, ⟨fun _ => none, fun _ => none⟩⟩ 10
      [.lb (.recv 0 10), .lb (.fetchMax 0), .lb (.recv 1 11), .lb (.fetchMax 1), .lb (.send 1),
        .lb (.send 0), .hm .slot, .hm (.forwarded 1), .hm .slot, .hm (.forwarded 2),
        .relayerSlot ∅, .relayerSlot ∅]).2.2 = [11, 10] := by
  decide

end SlotPipeline

end JitoRelayer
