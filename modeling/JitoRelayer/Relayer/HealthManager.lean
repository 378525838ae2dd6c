import JitoRelayer.Rpc.LoadBalancer

/-!
# The health manager (`relayer/src/health_manager.rs`)

The thread of `HealthManager::new` runs a `select!` over three arms: the check tick, which
writes `Healthy` into the shared state iff `last_update.elapsed() <= missing_slot_unhealthy_threshold`;
a slot from `slot_receiver`, which it forwards on `slot_sender` (blocking while that channel is
full) and which then sets `last_update`; and the channel-statistics tick. Instants are in
nanoseconds, and every arm gets the time at which it runs.

* `HealthManager.step`: one arm, on the two slot channels. The slot arm is two steps, `slot`
  (receive) and `forwarded` (the blocking `send` returned), since the thread holds the slot in
  between.
* `check_tick_state`: what a check tick writes.
* `step_fifo`: a step moves slots forward through `slot_receiver`, the slot held and
  `slot_sender`, and loses, adds or reorders none.
* `first_check_tick_healthy`: a check tick writes `Healthy` iff `last_update` is recent enough;
  `last_update` starts at the thread's start, so the first check tick writes `Healthy` before any
  slot has arrived.
-/

namespace JitoRelayer

/-- The health manager's thread: the shared `HealthState`, `last_update`,
`slot_sender_max_len`, and the slot it holds while `slot_sender.send` blocks. -/
structure HealthManager where
  state : HealthState
  lastUpdate : Nat
  slotSenderMaxLen : Nat
  holding : Option Nat

/-- `HealthManager::new`, with its thread started at `start`. -/
def HealthManager.new (start : Nat) : HealthManager := ⟨.Unhealthy, start, 0, none⟩

/-- One arm of the `select!` loop, at the time it runs. -/
inductive HmEvent
  /-- `recv(check_and_metrics_tick)`. -/
  | checkTick (now : Nat)
  /-- `recv(slot_receiver)`: the oldest queued slot. -/
  | slot
  /-- `slot_sender.send(slot)` returns, at `now`. -/
  | forwarded (now : Nat)
  /-- `recv(channel_len_tick)`. -/
  | channelTick

namespace HealthManager

/-- The health a check tick at `now` computes. -/
def checkedState (threshold lastUpdate now : Nat) : HealthState :=
  if now - lastUpdate ≤ threshold then .Healthy else .Unhealthy

/-- One arm, on the channels `slot_receiver` (`inbox`) and `slot_sender` (`outbox`), oldest
first; `none` when the arm cannot run (no slot queued, a full `outbox`, a slot held). The
statement after the `select!` updates `slot_sender_max_len`. -/
def step (threshold : Nat) (hm : HealthManager) (inbox outbox : List Nat) :
    HmEvent → Option (HealthManager × List Nat × List Nat)
  | .checkTick now =>
    match hm.holding with
    | none =>
      some ({ hm with
        state := checkedState threshold hm.lastUpdate now
        slotSenderMaxLen := max hm.slotSenderMaxLen outbox.length }, inbox, outbox)
    | some _ => none
  | .slot =>
    match hm.holding, inbox with
    | none, slot :: rest => some ({ hm with holding := some slot }, rest, outbox)
    | _, _ => none
  | .forwarded now =>
    match hm.holding with
    | some slot =>
      if outbox.length < slotQueueCapacity then
        some ({ hm with
          holding := none
          lastUpdate := now
          slotSenderMaxLen := max hm.slotSenderMaxLen (outbox.length + 1) }, inbox, outbox ++ [slot])
      else none
    | none => none
  | .channelTick =>
    match hm.holding with
    | none => some ({ hm with slotSenderMaxLen := outbox.length }, inbox, outbox)
    | some _ => none

/-- A check tick at `now` writes `Healthy` iff `now - last_update ≤ threshold`. -/
theorem check_tick_state {threshold : Nat} {hm hm' : HealthManager} {inbox outbox inbox' outbox' : List Nat}
    {now : Nat} (h : hm.step threshold inbox outbox (.checkTick now) = some (hm', inbox', outbox')) :
    hm'.state = checkedState threshold hm.lastUpdate now ∧ hm'.lastUpdate = hm.lastUpdate := by
  simp only [step] at h
  split at h
  · cases h; exact ⟨rfl, rfl⟩
  · cases h

/-- **FIFO**: `slot_sender` (`outbox`), the slot held and `slot_receiver` (`inbox`), oldest
first, read the same before and after a step. -/
theorem step_fifo {threshold : Nat} {hm hm' : HealthManager} {inbox outbox inbox' outbox' : List Nat}
    {e : HmEvent} (h : hm.step threshold inbox outbox e = some (hm', inbox', outbox')) :
    outbox' ++ hm'.holding.toList ++ inbox' = outbox ++ hm.holding.toList ++ inbox := by
  cases e with
  | slot =>
    simp only [step] at h
    split at h
    · cases h; simp [*]
    · cases h
  | forwarded now =>
    simp only [step] at h
    split at h
    · split at h
      · cases h; simp [*]
      · cases h
    · cases h
  | checkTick now | channelTick =>
    simp only [step] at h
    split at h
    · cases h; rfl
    · cases h

/-- **Freshness, from the thread's start.** A check tick writes `Healthy` iff the last slot
forward, or the thread's start, is at most `missing_slot_unhealthy_threshold` ago. So the first
check tick, `missing_slot_unhealthy_threshold / 2` after the thread starts, writes `Healthy`
although no slot has been received. -/
theorem first_check_tick_healthy :
    (∀ (threshold : Nat) (hm hm' : HealthManager) (inbox outbox inbox' outbox' : List Nat)
      (now : Nat), hm.step threshold inbox outbox (.checkTick now) = some (hm', inbox', outbox') →
      (hm'.state = .Healthy ↔ now - hm.lastUpdate ≤ threshold) ∧ hm'.lastUpdate = hm.lastUpdate) ∧
    ∀ (start threshold : Nat) (inbox outbox : List Nat),
      ((HealthManager.new start).step threshold inbox outbox
        (.checkTick (start + threshold / 2))).map (·.1.state) = some .Healthy := by
  refine ⟨fun threshold hm hm' inbox outbox inbox' outbox' now h => ?_, fun start threshold _ _ => ?_⟩
  · obtain ⟨hs, hl⟩ := check_tick_state h
    refine ⟨?_, hl⟩
    rw [hs, checkedState]
    split <;> simp [*]
  · simp only [step, HealthManager.new, Option.map_some', checkedState]
    rw [if_pos (by omega)]

end HealthManager

end JitoRelayer
