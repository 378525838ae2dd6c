import JitoRelayer.Relayer.Forward

/-!
# The fetch stage (`core/src/fetch_stage.rs`)

`FetchStage::handle_forwarded_packets` blocks on `recv` for one batch of forwarded packets, then
takes further batches with `try_recv` while the channel has some, and stops early once the
packets counted exceed `1024`; that check comes after each `try_recv`, not after the first
batch. It marks every packet `FORWARDED` and sends the batches in order to `tpu_sender`,
returning at the first failed `send`.

The batches `try_recv` finds are the list `available`, in order, up to the first `Err`; the
outcome of each `send` of a call is an input. `PacketFlags::FORWARDED`, a constant of
`solana_sdk`, is a parameter.

* `collectBatches`, `sendBatches`, `handleForwardedPackets`: the two loops and the call.
* `dequeuedFrom`, `specDequeued`: the batches one call dequeues, as the code counts them and as
  "until the count first exceeds `1024`" reads; `dequeued_eq_spec`: they agree unless the first
  batch alone exceeds `1024`.
* `handleForwardedPackets_ok`, `handleForwardedPackets_error`: what reaches `tpu_sender`.
* `markForwarded_spec`: the mark sets the `FORWARDED` bits and changes nothing else.

The thread `FetchStage::new` spawns runs the call in a loop until `exit` is set, and panics on
any error: the call's `recv` blocks, so it never returns the `RecvTimeout` the loop lets pass.
`Forwarder` is the thread with its input channel; batches are pushed and the sender dropped
between its turns. The metrics the loop reports are not modelled.

* `Forwarder.step`, `Forwarder.run`: a push, the drop of the last sender, `exit`, a turn.
* `Forwarder.run_lossless`: in every run, what was pushed, marked, is what was sent, then what a
  failed call dropped, then what is queued; only a panic drops batches.

`tpu.rs` feeds the channel only from the QUIC streamer of `tpu_forwards`, whose batches hold at
most `PACKETS_PER_BATCH` packets; `StreamerBatches` says so of a run's pushes.

* `Forwarder.handle_forwarded_packets_as_spec`: from a channel filled by such a run, a call
  dequeues the batches "until the count first exceeds `1024`" says, and sends them marked, in
  order, up to the first failed `send`.
-/

namespace JitoRelayer

/-- `solana_perf::packet::PacketBatch`. -/
abbrev PacketBatch := List Packet

/-- `FetchStageError`: a failed `send` carries back its batch. -/
inductive FetchStageError
  | send (batch : PacketBatch)
  | recv (e : RecvError)
  deriving DecidableEq

namespace FetchStage

section

variable (forwarded : BitVec 8)

/-- `mark_forwarded`: `flags |= PacketFlags::FORWARDED`. -/
def markForwarded (packet : Packet) : Packet :=
  { packet with meta := { packet.meta with flags := packet.meta.flags ||| forwarded } }

/-- The `while let Ok(..) = try_recv()` loop from the running count `numPackets`: the collected
batches, and what is left on the channel. -/
def collectBatches : Nat → List PacketBatch → List PacketBatch → List PacketBatch × List PacketBatch
  | _, packetBatches, [] => (packetBatches, [])
  | numPackets, packetBatches, packetBatch :: rest =>
    let numPackets := numPackets + packetBatch.length
    let packetBatches := packetBatches ++ [packetBatch.map (markForwarded forwarded)]
    if numPackets > 1024 then (packetBatches, rest)
    else collectBatches numPackets packetBatches rest

/-- The `for` loop of `send`s, the `i`-th with the outcome `sendOk i`: the batches that reached
`tpu_sender`, and the result. -/
def sendBatches (sendOk : Nat → Bool) : Nat → List PacketBatch → List PacketBatch × Except FetchStageError Unit
  | _, [] => ([], .ok ())
  | i, packetBatch :: rest =>
    if sendOk i then
      let r := sendBatches sendOk (i + 1) rest
      (packetBatch :: r.1, r.2)
    else ([], .error (.send packetBatch))

/-- `handle_forwarded_packets` on the result of its `recv`: the batches sent to `tpu_sender`,
what is left on the channel, and the result. -/
def handleForwardedPackets (first : Except RecvError PacketBatch) (available : List PacketBatch)
    (sendOk : Nat → Bool) : List PacketBatch × List PacketBatch × Except FetchStageError Unit :=
  match first with
  | .error e => ([], available, .error (.recv e))
  | .ok packetBatch =>
    let collected := collectBatches forwarded packetBatch.length
      [packetBatch.map (markForwarded forwarded)] available
    let sent := sendBatches sendOk 0 collected.1
    (sent.1, collected.2, sent.2)

end

/-! ## How many batches one call takes -/

/-- The batches the `try_recv` loop takes from `available`, from the running count `count`: up
to and including the one that brings the count over `1024`. -/
def dequeuedFrom (count : Nat) : List PacketBatch → List PacketBatch
  | [] => []
  | packetBatch :: rest =>
    if count + packetBatch.length > 1024 then [packetBatch]
    else packetBatch :: dequeuedFrom (count + packetBatch.length) rest

/-- The batches the spec has one call dequeue: the first, then further ones, until the channel
is empty or the running count of their packets first exceeds `1024`. -/
def specDequeued (first : PacketBatch) (available : List PacketBatch) : List PacketBatch :=
  dequeuedFrom 0 (first :: available)

theorem dequeuedFrom_prefix (count : Nat) (available : List PacketBatch) :
    dequeuedFrom count available <+: available := by
  induction available generalizing count with
  | nil => exact List.prefix_refl _
  | cons b rest ih =>
    simp only [dequeuedFrom]
    split
    · exact ⟨rest, rfl⟩
    · exact List.cons_prefix_cons.mpr ⟨rfl, ih _⟩

/-- The `try_recv` loop takes a prefix of the channel. -/
theorem dequeuedFrom_append_drop (count : Nat) (available : List PacketBatch) :
    dequeuedFrom count available ++ available.drop (dequeuedFrom count available).length =
      available := by
  conv_rhs => rw [← List.take_append_drop (dequeuedFrom count available).length available]
  rw [← List.prefix_iff_eq_take.mp ( dequeuedFrom_prefix count available)]

/-- **The `try_recv` loop.** It collects the marked batches `dequeuedFrom` names, in order, and
leaves the rest on the channel. -/
theorem collectBatches_eq (forwarded : BitVec 8) (count : Nat) (acc available : List PacketBatch) :
    collectBatches forwarded count acc available =
      (acc ++ (dequeuedFrom count available).map (·.map (markForwarded forwarded)),
        available.drop (dequeuedFrom count available).length) := by
  induction available generalizing count acc with
  | nil => simp [collectBatches, dequeuedFrom]
  | cons b rest ih =>
    simp only [collectBatches, dequeuedFrom]
    split
    · simp
    · rw [ih]
      simp

/-- **Dequeued as the spec counts.** The code's batches are the spec's, unless the first batch
alone has more than `1024` packets and the channel has another: the check that would stop the
loop runs only after a `try_recv`. -/
theorem dequeued_eq_spec (first : PacketBatch) (available : List PacketBatch)
    (h : first.length ≤ 1024 ∨ available = []) :
    first :: dequeuedFrom first.length available = specDequeued first available := by
  simp only [specDequeued, dequeuedFrom, Nat.zero_add]
  rcases h with h | rfl
  · rw [if_neg (by omega)]
  · split <;> rfl

/-! ## What reaches `tpu_sender` -/

theorem sendBatches_ok {sendOk : Nat → Bool} :
    ∀ {i : Nat} {bs : List PacketBatch}, (∀ j < bs.length, sendOk (i + j)) →
      sendBatches sendOk i bs = (bs, .ok ())
  | _, [], _ => rfl
  | i, b :: bs, h => by
    have h0 : sendOk i := by simpa using h 0 (by simp)
    have hs : ∀ j < bs.length, sendOk (i + 1 + j) := fun j hj => by
      simpa [Nat.add_assoc, Nat.add_comm 1 j] using h (j + 1) (by simpa using hj)
    simp only [sendBatches, h0, if_true, sendBatches_ok hs]

theorem sendBatches_error {sendOk : Nat → Bool} :
    ∀ {i k : Nat} {bs : List PacketBatch} (hk : k < bs.length), (∀ j < k, sendOk (i + j)) →
      sendOk (i + k) = false →
      sendBatches sendOk i bs = (bs.take k, .error (.send (bs.get ⟨k, hk⟩)))
  | _, _, [], hk, _, _ => absurd hk (Nat.not_lt_zero _)
  | i, 0, b :: bs, _, _, hf => by rw [Nat.add_zero] at hf; simp [sendBatches, hf]
  | i, k + 1, b :: bs, hk, h, hf => by
    have h0 : sendOk i := by simpa using h 0 (by omega)
    have hs : ∀ j < k, sendOk (i + 1 + j) := fun j hj => by
      simpa [Nat.add_assoc, Nat.add_comm 1 j] using h (j + 1) (by omega)
    have hf' : sendOk (i + 1 + k) = false := by rwa [Nat.add_assoc, Nat.add_comm 1 k]
    simp only [sendBatches, h0, if_true, sendBatches_error (Nat.lt_of_succ_lt_succ hk) hs hf',
      List.take_succ_cons, List.get_cons_succ]

variable (forwarded : BitVec 8)

/-- The `send` loop splits its batches into those sent and those it never reached; it returns
`Ok` exactly when none is left. -/
theorem sendBatches_split (sendOk : Nat → Bool) :
    ∀ (i : Nat) (bs : List PacketBatch), ∃ rest, (sendBatches sendOk i bs).1 ++ rest = bs ∧
      ((sendBatches sendOk i bs).2 = .ok () ↔ rest = [])
  | _, [] => ⟨[], rfl, by simp [sendBatches]⟩
  | i, b :: bs => by
    simp only [sendBatches]
    split
    · obtain ⟨rest, h1, h2⟩ := sendBatches_split sendOk (i + 1) bs
      exact ⟨rest, by rw [List.cons_append, h1], h2⟩
    · exact ⟨b :: bs, rfl, by simp⟩

/-- The call after its `recv`: the `try_recv` loop's batches, marked, go to the `send` loop. -/
theorem handleForwardedPackets_eq (first : PacketBatch) (available : List PacketBatch)
    (sendOk : Nat → Bool) :
    handleForwardedPackets forwarded (.ok first) available sendOk =
      ((sendBatches sendOk 0
          ((first :: dequeuedFrom first.length available).map (·.map (markForwarded forwarded)))).1,
        available.drop (dequeuedFrom first.length available).length,
        (sendBatches sendOk 0
          ((first :: dequeuedFrom first.length available).map (·.map (markForwarded forwarded)))).2) := by
  simp only [handleForwardedPackets, collectBatches_eq, List.singleton_append, List.map_cons]

/-- **Every send succeeds.** The call sends the dequeued batches, marked, in dequeue order, and
leaves the rest on the channel. -/
theorem handleForwardedPackets_ok {first : PacketBatch} {available : List PacketBatch}
    {sendOk : Nat → Bool}
    (h : ∀ j < (dequeuedFrom first.length available).length + 1, sendOk j) :
    handleForwardedPackets forwarded (.ok first) available sendOk =
      ((first :: dequeuedFrom first.length available).map (·.map (markForwarded forwarded)),
        available.drop (dequeuedFrom first.length available).length, .ok ()) := by
  rw [handleForwardedPackets_eq, sendBatches_ok fun j hj => by simpa using h j (by simpa using hj)]

/-- **A send fails.** The call returns the error of the `k`-th send, after sending exactly the
`k` batches before it. -/
theorem handleForwardedPackets_error {first : PacketBatch} {available : List PacketBatch}
    {sendOk : Nat → Bool} {k : Nat} (hk : k < (dequeuedFrom first.length available).length + 1)
    (hok : ∀ j < k, sendOk j) (hf : sendOk k = false) :
    let collected := (first :: dequeuedFrom first.length available).map (·.map (markForwarded forwarded))
    ∃ hk' : k < collected.length, handleForwardedPackets forwarded (.ok first) available sendOk =
      (collected.take k, available.drop (dequeuedFrom first.length available).length,
        .error (.send (collected.get ⟨k, hk'⟩))) := by
  intro collected
  have hk' : k < collected.length := by simpa [collected] using hk
  refine ⟨hk', ?_⟩
  rw [handleForwardedPackets_eq, sendBatches_error hk' (by simpa using hok) (by simpa using hf)]

/-- **The mark.** A marked packet has the `FORWARDED` bits set and every other bit of its flags,
the rest of its metadata and its payload as before. -/
theorem markForwarded_spec (p : Packet) :
    (markForwarded forwarded p).meta.flags &&& forwarded = forwarded ∧
      (markForwarded forwarded p).meta.flags &&& ~~~forwarded = p.meta.flags &&& ~~~forwarded ∧
      (markForwarded forwarded p).buffer = p.buffer ∧
      (markForwarded forwarded p).meta.size = p.meta.size ∧
      (markForwarded forwarded p).meta.addr = p.meta.addr ∧
      (markForwarded forwarded p).meta.port = p.meta.port := by
  refine ⟨?_, ?_, rfl, rfl, rfl, rfl⟩ <;> ext i <;>
    simp only [markForwarded, BitVec.getLsbD_and, BitVec.getLsbD_or, BitVec.getLsbD_not] <;>
    cases forwarded.getLsbD i <;> simp

end FetchStage

/-! ## The forwarder thread -/

/-- The `Display` of `FetchStageError` (`thiserror`), with those of `crossbeam_channel`'s
errors. -/
def FetchStageError.message : FetchStageError → String
  | .send _ => "send error: sending on a disconnected channel"
  | .recv _ => "recv error: receiving on an empty and disconnected channel"

/-- The thread `FetchStage::new` spawns, and its two channels. -/
structure Forwarder where
  /-- The batches on `tpu_forwards_receiver`, oldest first. -/
  channel : List PacketBatch
  /-- No sender of `tpu_forwards_receiver` is left. -/
  disconnected : Bool
  /-- The shared `exit` flag the loop checks before each turn. -/
  exit : Bool
  /-- The batches sent to `tpu_sender`, in order. -/
  delivered : List PacketBatch
  /-- The panic that ended the thread. -/
  panicked : Option String

/-- A step of the thread or of its environment. -/
inductive ForwarderEvent
  /-- A batch arrives on `tpu_forwards_receiver`. -/
  | push (batch : PacketBatch)
  /-- The last sender of `tpu_forwards_receiver` is dropped. -/
  | disconnect
  /-- `exit` is set. -/
  | exit
  /-- One turn of the thread's loop; the `i`-th `send` of the call has the outcome `sendOk i`. -/
  | handle (sendOk : Nat → Bool)

/-- The batches a run pushes. -/
def ForwarderEvent.pushes : List ForwarderEvent → List PacketBatch :=
  List.filterMap fun | .push batch => some batch | _ => none

theorem ForwarderEvent.pushes_cons (e : ForwarderEvent) (es : List ForwarderEvent) :
    pushes (e :: es) = pushes [e] ++ pushes es :=
  List.filterMap_append [e] es _

/-- The batches of a run come from the QUIC streamer: in `Tpu::new` the only sender of
`tpu_forwards_receiver` is `spawn_server`, which coalesces at most `maxBatch` packets into one
batch (`PACKETS_PER_BATCH` of `solana_perf`, `64`). -/
def ForwarderEvent.StreamerBatches (maxBatch : Nat) (es : List ForwarderEvent) : Prop :=
  ∀ b ∈ ForwarderEvent.pushes es, b.length ≤ maxBatch

namespace Forwarder

variable (forwarded : BitVec 8)

/-- `FetchStage::new`: nothing queued or sent. -/
def init : Forwarder := ⟨[], false, false, [], none⟩

/-- A turn of the loop: `handle_forwarded_packets`, then the `panic!` of an error. -/
def turn (f : Forwarder) (first : Except RecvError PacketBatch) (available : List PacketBatch)
    (sendOk : Nat → Bool) : Forwarder :=
  let r := FetchStage.handleForwardedPackets forwarded first available sendOk
  { f with
    channel := r.2.1
    delivered := f.delivered ++ r.1
    panicked := match r.2.2 with
      | .ok () => none
      | .error e => some ("Failed to handle forwarded packets. Error: " ++ e.message) }

/-- One step. A turn of a thread that left its loop or panicked, or whose `recv` would block,
changes nothing. -/
def step (f : Forwarder) : ForwarderEvent → Forwarder
  | .push batch => { f with channel := f.channel ++ [batch] }
  | .disconnect => { f with disconnected := true }
  | .exit => { f with exit := true }
  | .handle sendOk =>
    if f.exit || f.panicked.isSome then f
    else match f.channel, f.disconnected with
      | first :: available, _ => f.turn forwarded (.ok first) available sendOk
      | [], true => f.turn forwarded (.error .disconnected) [] sendOk
      | [], false => f

/-- A run. -/
def run (f : Forwarder) : List ForwarderEvent → Forwarder
  | [] => f
  | e :: es => run (f.step forwarded e) es

/-- The batches pushed so far, marked, are those sent, then those a failed call dropped, then
those still queued; nothing is dropped unless the thread panicked. -/
def Lossless (pushed : List PacketBatch) (f : Forwarder) : Prop :=
  ∃ dropped, pushed.map (·.map (FetchStage.markForwarded forwarded)) =
      f.delivered ++ dropped ++ f.channel.map (·.map (FetchStage.markForwarded forwarded)) ∧
    (f.panicked = none → dropped = [])

/-- A turn on a non-empty channel keeps `Lossless`: it sends a prefix of what it dequeued,
marked, and drops the rest only when it panics. -/
theorem Lossless.turn {pushed : List PacketBatch} {f : Forwarder} (h : Lossless forwarded pushed f)
    (hp : f.panicked = none) {first : PacketBatch} {available : List PacketBatch}
    (hc : f.channel = first :: available) (sendOk : Nat → Bool) :
    Lossless forwarded pushed (f.turn forwarded (.ok first) available sendOk) := by
  obtain ⟨dropped, heq, hnone⟩ := h
  obtain rfl := hnone hp
  obtain ⟨rest, hsplit, hres⟩ := FetchStage.sendBatches_split sendOk 0
    ((first :: FetchStage.dequeuedFrom first.length available).map
      (·.map (FetchStage.markForwarded forwarded)))
  have hav : (first :: available).map (·.map (FetchStage.markForwarded forwarded)) =
      (FetchStage.sendBatches sendOk 0 ((first :: FetchStage.dequeuedFrom first.length available).map
        (·.map (FetchStage.markForwarded forwarded)))).1 ++ rest ++
      (available.drop (FetchStage.dequeuedFrom first.length available).length).map
        (·.map (FetchStage.markForwarded forwarded)) := by
    rw [hsplit, ← List.map_append, List.cons_append, FetchStage.dequeuedFrom_append_drop]
  refine ⟨rest, ?_, fun hp' => hres.mp ?_⟩
  · rw [heq, hc, hav]
    simp only [Forwarder.turn, FetchStage.handleForwardedPackets_eq, List.append_assoc, List.nil_append]
  · simp only [Forwarder.turn, FetchStage.handleForwardedPackets_eq] at hp'
    split at hp'
    · assumption
    · cases hp'

theorem Lossless.step {pushed : List PacketBatch} {f : Forwarder} (h : Lossless forwarded pushed f)
    (e : ForwarderEvent) : Lossless forwarded (pushed ++ ForwarderEvent.pushes [e]) (f.step forwarded e) := by
  cases e with
  | push b =>
    obtain ⟨dropped, heq, hnone⟩ := h
    refine ⟨dropped, ?_, hnone⟩
    simp only [ForwarderEvent.pushes, List.filterMap_cons, List.filterMap_nil, List.map_append,
      heq, Forwarder.step, List.append_assoc, List.map_cons, List.map_nil]
  | disconnect | exit => simpa [ForwarderEvent.pushes] using h
  | handle sendOk =>
    rw [show ForwarderEvent.pushes [.handle sendOk] = [] from rfl, List.append_nil]
    obtain ⟨channel, disconnected, _ | _, delivered, _ | msg⟩ := f
    case false.some | true.none | true.some => exact h
    rcases channel with _ | ⟨first, available⟩
    · cases disconnected
      · exact h
      · obtain ⟨dropped, heq, hnone⟩ := h
        refine ⟨[], ?_, fun _ => rfl⟩
        simpa [Forwarder.step, Forwarder.turn, FetchStage.handleForwardedPackets, hnone rfl] using heq
    · exact h.turn forwarded rfl rfl sendOk

/-- **Run lemma.** `Lossless` holds along every run, the run's pushes appended. -/
theorem Lossless.run {pushed : List PacketBatch} {f : Forwarder} (h : Lossless forwarded pushed f)
    (es : List ForwarderEvent) :
    Lossless forwarded (pushed ++ ForwarderEvent.pushes es) (f.run forwarded es) := by
  induction es generalizing f pushed with
  | nil => simpa [ForwarderEvent.pushes, Forwarder.run] using h
  | cons e es ih =>
    rw [ForwarderEvent.pushes_cons, ← List.append_assoc]
    exact ih (h.step forwarded e)

/-- **The forwarder loses nothing and repeats nothing.** In every run, the batches pushed on
`tpu_forwards_receiver`, marked, are the batches sent to `tpu_sender`, in order, then the batches
a failed call had dequeued, then those still queued; a call drops batches only when the thread
then panics. -/
theorem run_lossless (es : List ForwarderEvent) :
    Lossless forwarded (ForwarderEvent.pushes es) (init.run forwarded es) := by
  have h := @Lossless.run forwarded [] init ⟨[], rfl, fun _ => rfl⟩ es
  rwa [List.nil_append] at h

/-! ## The batches the QUIC streamer sends -/

/-- A batch queued in a reachable state has as many packets as one pushed. -/
theorem length_le_of_mem_channel {maxBatch : Nat} {es : List ForwarderEvent}
    (hes : ForwarderEvent.StreamerBatches maxBatch es) {b : PacketBatch}
    (hb : b ∈ (init.run forwarded es).channel) : b.length ≤ maxBatch := by
  obtain ⟨dropped, heq, -⟩ := @Lossless.run forwarded [] init ⟨[], rfl, fun _ => rfl⟩ es
  have hm : b.map (FetchStage.markForwarded forwarded) ∈
      (ForwarderEvent.pushes es).map (·.map (FetchStage.markForwarded forwarded)) := by
    rw [← List.nil_append (ForwarderEvent.pushes es), heq]
    exact List.mem_append_right _ (List.mem_map_of_mem _ hb)
  obtain ⟨b', hb', he⟩ := List.mem_map.mp hm
  rw [← List.length_map b (FetchStage.markForwarded forwarded), ← he, List.length_map]
  exact hes b' hb'

/-- **One call, from every state the fetch stage reaches.** When the streamer's batches hold at
most `1024` packets, a call of `handle_forwarded_packets` on a reachable channel dequeues the
first batch and then further ones until the channel is empty or the running count first exceeds
`1024`, and leaves the rest. When every send succeeds, it sends exactly the dequeued batches, in
order, marked. When the `k`-th send fails, it returns that send's error after sending exactly
the `k` batches before it. The mark sets the `FORWARDED` bits and changes no other flag bit,
no other field of the metadata and no byte of the payload. -/
theorem handle_forwarded_packets_as_spec {maxBatch : Nat} (hmax : maxBatch ≤ 1024)
    {es : List ForwarderEvent} (hes : ForwarderEvent.StreamerBatches maxBatch es)
    {first : PacketBatch} {available : List PacketBatch}
    (hc : (init.run forwarded es).channel = first :: available) (sendOk : Nat → Bool) :
    let dequeued := FetchStage.specDequeued first available
    let marked := dequeued.map (·.map (FetchStage.markForwarded forwarded))
    let r := FetchStage.handleForwardedPackets forwarded (.ok first) available sendOk
    dequeued ++ r.2.1 = first :: available ∧
    ((∀ j < dequeued.length, sendOk j = true) → r.1 = marked ∧ r.2.2 = .ok ()) ∧
    (∀ k (hk : k < marked.length), (∀ j < k, sendOk j = true) → sendOk k = false →
      r.1 = marked.take k ∧ r.2.2 = .error (.send (marked.get ⟨k, hk⟩))) ∧
    ∀ p : Packet, (FetchStage.markForwarded forwarded p).meta.flags &&& forwarded = forwarded ∧
      (FetchStage.markForwarded forwarded p).meta.flags &&& ~~~forwarded =
        p.meta.flags &&& ~~~forwarded ∧
      (FetchStage.markForwarded forwarded p).buffer = p.buffer ∧
      (FetchStage.markForwarded forwarded p).meta.size = p.meta.size ∧
      (FetchStage.markForwarded forwarded p).meta.addr = p.meta.addr ∧
      (FetchStage.markForwarded forwarded p).meta.port = p.meta.port := by
  intro dequeued marked r
  have hfirst : first.length ≤ 1024 :=
    (length_le_of_mem_channel forwarded hes (hc ▸ List.mem_cons_self _ _)).trans hmax
  have hd : dequeued = first :: FetchStage.dequeuedFrom first.length available :=
    (FetchStage.dequeued_eq_spec first available (.inl hfirst)).symm
  have hr : r.2.1 = available.drop (FetchStage.dequeuedFrom first.length available).length := by
    simp only [r, FetchStage.handleForwardedPackets_eq]
  refine ⟨?_, fun hok => ?_, fun k hk hok hf => ?_, FetchStage.markForwarded_spec forwarded⟩
  · rw [hd, hr, List.cons_append, FetchStage.dequeuedFrom_append_drop]
  · rw [hd, List.length_cons] at hok
    simp only [r, marked, hd, FetchStage.handleForwardedPackets_ok forwarded hok, and_self]
  · have hk' : k < (FetchStage.dequeuedFrom first.length available).length + 1 := by
      simpa [marked, hd] using hk
    obtain ⟨hk'', he⟩ := FetchStage.handleForwardedPackets_error forwarded hk' hok hf
    have hm : (first :: FetchStage.dequeuedFrom first.length available).map
        (·.map (FetchStage.markForwarded forwarded)) = marked := by
      simp only [marked, hd]
    simp only [r, he]
    exact ⟨by rw [hm], by rw [List.get_of_eq hm]⟩

/-- Two batches from the streamer, of one and two packets, with `FORWARDED = 0b10`; every send
succeeds. -/
theorem handle_forwarded_packets_as_spec_two_batches :
    let p : Packet := ⟨[], ⟨0, .V4 0, 0, 0⟩⟩
    let es : List ForwarderEvent := [.push [p], .push [p, p]]
    let dequeued := FetchStage.specDequeued [p] [[p, p]]
    let marked := dequeued.map (·.map (FetchStage.markForwarded 2#8))
    let r := FetchStage.handleForwardedPackets 2#8 (.ok [p]) [[p, p]] fun _ => true
    64 ≤ 1024 ∧ ForwarderEvent.StreamerBatches 64 es ∧ (init.run 2#8 es).channel = [p] :: [[p, p]] ∧
      dequeued ++ r.2.1 = [p] :: [[p, p]] ∧
      ((∀ j < dequeued.length, true = true) → r.1 = marked ∧ r.2.2 = .ok ()) ∧
      (∀ k (hk : k < marked.length), (∀ j < k, true = true) → true = false →
        r.1 = marked.take k ∧ r.2.2 = .error (.send (marked.get ⟨k, hk⟩))) ∧
      ∀ p : Packet, (FetchStage.markForwarded 2#8 p).meta.flags &&& 2#8 = 2#8 ∧
        (FetchStage.markForwarded 2#8 p).meta.flags &&& ~~~2#8 = p.meta.flags &&& ~~~2#8 ∧
        (FetchStage.markForwarded 2#8 p).buffer = p.buffer ∧
        (FetchStage.markForwarded 2#8 p).meta.size = p.meta.size ∧
        (FetchStage.markForwarded 2#8 p).meta.addr = p.meta.addr ∧
        (FetchStage.markForwarded 2#8 p).meta.port = p.meta.port := by
  intro p es dequeued marked r
  have hes : ForwarderEvent.StreamerBatches 64 es := by
    intro b hb
    simp only [es, ForwarderEvent.pushes, List.filterMap_cons, List.filterMap_nil, List.mem_cons,
      List.mem_singleton, List.not_mem_nil, or_false] at hb
    rcases hb with rfl | rfl <;> decide
  have hc : (init.run 2#8 es).channel = [p] :: [[p, p]] := rfl
  exact ⟨by decide, hes, hc, handle_forwarded_packets_as_spec 2#8 (by decide) hes hc fun _ => true⟩

end Forwarder

end JitoRelayer
