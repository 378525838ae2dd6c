import JitoRelayer.Basic

/-!
# Slot tracking of the load balancer (`rpc/src/load_balancer.rs`)

`LoadBalancer::start_subscription_threads` runs one thread per server. For each slot its
websocket delivers, a thread (1) stores the slot in `server_to_slot`, (2) runs
`highest_slot.fetch_max(slot)` and (3), when the slot is above the old maximum, sends it on the
bounded `slot_sender` channel, blocking while the channel is full. The three are separate
atomic steps, and the threads interleave between them.

* `LoadBalancer`: the shared state and each thread's `Phase`; `LoadBalancer.step`: one atomic
  step of one thread, which returns the slots it sent; `LoadBalancer.run`: a schedule of steps.
* `step_cases`: what one step can do; `Issued`: the invariant that the sent slots and the slots
  the threads hold before their `send` are at most the maximum and all different;
  `Issued.step`: every step keeps it, so no slot is sent twice (`SlotPipeline.issued_run` carries
  it through the whole slot stream).

Reconnections, timeouts and metrics do not touch the slots and are left out.
-/

namespace JitoRelayer

/-- `LoadBalancer::SLOT_QUEUE_CAPACITY`. -/
def slotQueueCapacity : Nat := 100

/-- Where a subscription thread is between its atomic steps. -/
inductive Phase
  /-- Waiting on `receiver.recv_timeout`. -/
  | idle
  /-- Stored `slot` in `server_to_slot`, before `fetch_max`. -/
  | received (slot : Nat)
  /-- `slot > old_slot`, before `slot_sender.send(slot)`. -/
  | sending (slot : Nat)
  deriving DecidableEq

/-- The state `start_subscription_threads` shares between its threads, and each thread's phase;
thread `i` serves the `i`-th server. -/
structure LoadBalancer where
  /-- The websocket URL of each server. -/
  servers : List String
  serverToSlot : AList (fun _ : String => Nat)
  /-- The `AtomicU64` `highest_slot`. -/
  highestSlot : Nat
  /-- The slots queued on the bounded `slot_sender` channel, oldest first. -/
  slotSender : List Nat
  phase : Nat → Phase

/-- `LoadBalancer::new` on `(http rpc url, ws url)` pairs: every server at slot `0`. -/
def LoadBalancer.new (servers : List (String × String)) : LoadBalancer where
  servers := servers.map Prod.snd
  serverToSlot := (servers.map fun s => (⟨s.2, 0⟩ : Σ _ : String, Nat)).toAList
  highestSlot := 0
  slotSender := []
  phase := fun _ => .idle

/-- One atomic step of a subscription thread. -/
inductive LbAction
  /-- Thread `i`'s websocket delivers `slot`; the thread stores it in `server_to_slot`. -/
  | recv (i : Nat) (slot : Nat)
  /-- Thread `i` runs `highest_slot.fetch_max(slot)` and compares. -/
  | fetchMax (i : Nat)
  /-- Thread `i` runs `slot_sender.send(slot)`. -/
  | send (i : Nat)

namespace LoadBalancer

/-- Thread `i` moves to phase `p`. -/
def setPhase (lb : LoadBalancer) (i : Nat) (p : Phase) : LoadBalancer :=
  { lb with phase := Function.update lb.phase i p }

/-- One atomic step, and the slots it sent on `slot_sender`. A step its thread cannot take
(another phase, a full channel) changes nothing. -/
def step (lb : LoadBalancer) : LbAction → LoadBalancer × List Nat
  | .recv i slot =>
    match lb.servers.get? i, lb.phase i with
    | some ws, .idle =>
      ({ lb.setPhase i (.received slot) with serverToSlot := lb.serverToSlot.insert ws slot }, [])
    | _, _ => (lb, [])
  | .fetchMax i =>
    match lb.phase i with
    | .received slot =>
      let old := lb.highestSlot
      let lb' := { lb with highestSlot := max old slot }
      if slot > old then (lb'.setPhase i (.sending slot), []) else (lb'.setPhase i .idle, [])
    | _ => (lb, [])
  | .send i =>
    match lb.phase i with
    | .sending slot =>
      if lb.slotSender.length < slotQueueCapacity then
        ({ lb.setPhase i .idle with slotSender := lb.slotSender ++ [slot] }, [slot])
      else (lb, [])
    | _ => (lb, [])

/-- A schedule of steps, and the slots sent, in order. -/
def run (lb : LoadBalancer) : List LbAction → LoadBalancer × List Nat
  | [] => (lb, [])
  | a :: as =>
    let p := lb.step a
    let q := run p.1 as
    (q.1, p.2 ++ q.2)

@[simp] theorem setPhase_phase (lb : LoadBalancer) (i : Nat) (p : Phase) :
    (lb.setPhase i p).phase = Function.update lb.phase i p := rfl

@[simp] theorem setPhase_highestSlot (lb : LoadBalancer) (i : Nat) (p : Phase) :
    (lb.setPhase i p).highestSlot = lb.highestSlot := rfl

/-- A thread that sends after thread `i` moved to a phase other than `sending` is not `i`, and
was sending before. -/
theorem sending_of_update {f : Nat → Phase} {i j s : Nat} {p : Phase}
    (h : Function.update f i p j = .sending s) (hp : ∀ t, p ≠ .sending t) : j ≠ i ∧ f j = .sending s := by
  by_cases hj : j = i
  · subst hj; exact absurd (by simpa using h) (hp s)
  · exact ⟨hj, by simpa [Function.update_noteq hj] using h⟩

/-- What one step can do to the maximum, the phases and the sent slots. -/
theorem step_cases (lb : LoadBalancer) (a : LbAction) :
    (lb.step a).2 = [] ∧ (lb.step a).1.highestSlot = lb.highestSlot ∧
        (∀ j s, (lb.step a).1.phase j = .sending s → lb.phase j = .sending s) ∨
    (∃ i s, lb.phase i = .received s ∧ lb.highestSlot < s ∧ (lb.step a).2 = [] ∧
      (lb.step a).1.highestSlot = s ∧ (lb.step a).1.phase = Function.update lb.phase i (.sending s)) ∨
    (∃ i s, lb.phase i = .sending s ∧ (lb.step a).2 = [s] ∧
      (lb.step a).1.highestSlot = lb.highestSlot ∧
      (lb.step a).1.phase = Function.update lb.phase i .idle) := by
  cases a with
  | recv i slot =>
    left
    simp only [step]
    split
    · exact ⟨rfl, rfl, fun j s h => (sending_of_update h fun _ => nofun).2⟩
    · exact ⟨rfl, rfl, fun _ _ h => h⟩
  | fetchMax i =>
    simp only [step]
    split
    · rename_i slot hp
      split
      · rename_i hgt
        exact .inr (.inl ⟨i, slot, hp, hgt, rfl, Nat.max_eq_right (Nat.le_of_lt hgt), rfl⟩)
      · rename_i hle
        exact .inl ⟨rfl, Nat.max_eq_left (Nat.le_of_not_lt hle),
          fun j s h => (sending_of_update h fun _ => nofun).2⟩
    · exact .inl ⟨rfl, rfl, fun _ _ h => h⟩
  | send i =>
    simp only [step]
    split
    · rename_i slot hp
      split
      · exact .inr (.inr ⟨i, slot, hp, rfl, rfl, rfl⟩)
      · exact .inl ⟨rfl, rfl, fun _ _ h => h⟩
    · exact .inl ⟨rfl, rfl, fun _ _ h => h⟩

/-- A step appends what it sends to `slot_sender`. -/
theorem step_slotSender (lb : LoadBalancer) (a : LbAction) :
    (lb.step a).1.slotSender = lb.slotSender ++ (lb.step a).2 := by
  cases a with
  | recv i slot => simp only [step]; split <;> simp [setPhase]
  | fetchMax i => simp only [step]; split <;> (try split) <;> simp [setPhase]
  | send i => simp only [step]; split <;> (try split) <;> simp [setPhase]

/-! ## No slot is sent twice -/

/-- The slots sent so far (`sent`) and those a thread holds between its `fetch_max` and its
`send`: each at most the maximum, and no two the same. -/
def Issued (lb : LoadBalancer) (sent : List Nat) : Prop :=
  sent.Nodup ∧ (∀ x ∈ sent, x ≤ lb.highestSlot) ∧
  ∀ j s, lb.phase j = .sending s →
    s ≤ lb.highestSlot ∧ s ∉ sent ∧ ∀ k, k ≠ j → lb.phase k ≠ .sending s

theorem Issued.new (servers : List (String × String)) : Issued (LoadBalancer.new servers) [] :=
  ⟨List.nodup_nil, by simp, fun _ _ h => by simp [LoadBalancer.new] at h⟩

/-- A slot only leaves a thread by its `send`, and a slot passes `fetch_max` only above the
maximum, so one step keeps `Issued`. -/
theorem Issued.step {lb : LoadBalancer} {sent : List Nat} (h : Issued lb sent) (a : LbAction) :
    Issued (lb.step a).1 (sent ++ (lb.step a).2) := by
  obtain ⟨hnd, hle, hph⟩ := h
  unfold Issued
  rcases lb.step_cases a with ⟨ho, hh, hs⟩ | ⟨i, s, -, hlt, ho, hh, hp⟩ | ⟨i, s, hi, ho, hh, hp⟩
  · rw [ho, List.append_nil, hh]
    refine ⟨hnd, hle, fun j t hj => ?_⟩
    obtain ⟨h1, h2, h3⟩ := hph j t (hs j t hj)
    exact ⟨h1, h2, fun k hk hkt => h3 k hk (hs k t hkt)⟩
  · rw [ho, List.append_nil, hh, hp]
    refine ⟨hnd, fun x hx => by have := hle x hx; omega, fun j t hj => ?_⟩
    by_cases hji : j = i
    · subst hji
      simp only [Function.update_same, Phase.sending.injEq] at hj
      subst hj
      refine ⟨le_rfl, fun hm => by have := hle _ hm; omega, fun k hk hkt => ?_⟩
      rw [Function.update_noteq hk] at hkt
      have := (hph k _ hkt).1
      omega
    · rw [Function.update_noteq hji] at hj
      obtain ⟨h1, h2, h3⟩ := hph j t hj
      refine ⟨by omega, h2, fun k hk hkt => ?_⟩
      by_cases hki : k = i
      · subst hki
        simp only [Function.update_same, Phase.sending.injEq] at hkt
        omega
      · exact h3 k hk (by rwa [Function.update_noteq hki] at hkt)
  · rw [ho, hh, hp]
    obtain ⟨hs1, hs2, hs3⟩ := hph i s hi
    refine ⟨List.nodup_append.mpr ⟨hnd, List.nodup_singleton s, by simpa using hs2⟩,
      fun x hx => ?_, fun j t hj => ?_⟩
    · rcases List.mem_append.mp hx with hx | hx
      · exact hle x hx
      · rw [List.mem_singleton.mp hx]; exact hs1
    · obtain ⟨hji, hj⟩ := sending_of_update hj fun _ => nofun
      obtain ⟨h1, h2, h3⟩ := hph j t hj
      refine ⟨h1, ?_, fun k hk hkt => h3 k hk (sending_of_update hkt fun _ => nofun).2⟩
      simp only [List.mem_append, List.mem_singleton, not_or]
      exact ⟨h2, fun hts => hs3 j hji (hts ▸ hj)⟩

end LoadBalancer

end JitoRelayer
