import JitoRelayer.Rpc.LoadBalancer

/-!
# Choosing the upstream server (`rpc/src/load_balancer.rs`)

`LoadBalancer::new` builds `server_to_rpc_client` once, keyed by websocket URL, and nothing
writes it afterwards. `rpc_client` takes the server `get_highest_slot` returns and `unwrap`s the
lookup of its URL in `server_to_rpc_client`. `get_highest_slot` runs `max_by(..).unwrap()` over
`server_to_slot.iter()` while the subscription threads `insert` into the same map
(`LoadBalancer.step`).

`DashMap::iter` is not a snapshot. It visits the map shard by shard and holds a read guard of
the shard it is in; the best entry `max_by` keeps is a `RefMulti`, which holds a guard of its own
shard. An `insert` waits while its shard is read-locked and goes through otherwise, so one call
compares slots read at different times.

* `serverToRpcClient`: the client map, and which URLs it has.
* `KeysAre`: the keys of `server_to_slot` are the websocket URLs; `KeysAre.step`: a thread's step
  keeps it.
* `Selection`: the load balancer and the calls of `get_highest_slot` in progress, each a
  `HighestSlotRead` (the entries left to visit, the shard the iterator holds, the best entry of
  `max_by`); `Selection.step`: a thread's step, or a call that starts, visits one entry, or
  returns through `rpc_client`. Which shard each URL hashes to, and the order of the entries in a
  shard, is the parameter `layout`.
* `Selection.Inv.run`: in every schedule the keys of `server_to_slot` stay the URLs, and every
  call returns a URL's entry, so neither `unwrap` panics.
* `rpc_client_not_freshest`: that, and a schedule in which `rpc_client` returns a server whose
  slot is below another server's when it returns.
-/

namespace JitoRelayer

/-- An `RpcClient`, by the HTTP URL it was created for. -/
structure RpcClient where
  url : String
  deriving DecidableEq

/-- `server_to_rpc_client`: `DashMap::from_iter` inserts the pairs in order, so a websocket URL
listed twice keeps the client of its last server. -/
def serverToRpcClient (servers : List (String × String)) : AList (fun _ : String => RpcClient) :=
  servers.foldl (fun m s => m.insert s.2 ⟨s.1⟩) ∅

/-! ## The clients -/

theorem lookup_serverToRpcClient (servers : List (String × String)) (ws : String) :
    (serverToRpcClient servers).lookup ws =
      (servers.reverse.find? fun s => s.2 = ws).map fun s => ⟨s.1⟩ := by
  have h : serverToRpcClient servers =
      (servers.map fun s => (s.2, (⟨s.1⟩ : RpcClient))).foldl (fun m e => m.insert e.1 e.2) ∅ := by
    rw [List.foldl_map]; rfl
  rw [h, lookup_foldl_insert, AList.lookup_empty, Option.or_none, ← List.map_reverse,
    List.find?_map, Option.map_map]
  rfl

/-- Every websocket URL has the client of one of its servers. -/
theorem mem_serverToRpcClient {servers : List (String × String)} {ws : String}
    (h : ws ∈ servers.map Prod.snd) :
    ∃ c, (serverToRpcClient servers).lookup ws = some c ∧ (c.url, ws) ∈ servers := by
  rw [lookup_serverToRpcClient]
  cases ht : servers.reverse.find? (fun s => s.2 = ws) with
  | none =>
    obtain ⟨s, hs, rfl⟩ := List.mem_map.mp h
    exact absurd (decide_eq_true rfl) (List.find?_eq_none.mp ht s (List.mem_reverse.mpr hs))
  | some t =>
    have hst := List.find?_some ht
    simp only [decide_eq_true_eq] at hst
    refine ⟨⟨t.1⟩, rfl, ?_⟩
    rw [← hst]
    exact List.mem_reverse.mp (List.mem_of_find?_eq_some ht)

theorem mem_serverToRpcClient_iff {servers : List (String × String)} {ws : String} :
    ws ∈ serverToRpcClient servers ↔ ws ∈ servers.map Prod.snd := by
  refine ⟨fun h => ?_, fun h => ?_⟩
  · obtain ⟨c, hc⟩ := Option.isSome_iff_exists.mp (AList.lookup_isSome.mpr h)
    obtain ⟨t, ht, -⟩ := Option.map_eq_some'.mp ((lookup_serverToRpcClient servers ws).symm.trans hc)
    have hst := List.find?_some ht
    simp only [decide_eq_true_eq] at hst
    exact List.mem_map.mpr ⟨t, List.mem_reverse.mp (List.mem_of_find?_eq_some ht), hst⟩
  · obtain ⟨c, hc, -⟩ := mem_serverToRpcClient h
    exact AList.lookup_isSome.mp (by rw [hc]; rfl)

/-! ## The keys of `server_to_slot` -/

namespace LoadBalancer

/-- The keys of `server_to_slot` are the servers' websocket URLs. -/
def KeysAre (lb : LoadBalancer) : Prop :=
  ∀ ws, ws ∈ lb.serverToSlot ↔ ws ∈ lb.servers

theorem KeysAre.new (servers : List (String × String)) : (LoadBalancer.new servers).KeysAre := by
  intro ws
  rw [← AList.lookup_isSome, LoadBalancer.new, AList.lookup_to_alist, List.dlookup_isSome]
  simp [List.keys]

/-- A step keeps the servers, and writes `server_to_slot` only by its thread's `insert`. -/
theorem step_frame (lb : LoadBalancer) (a : LbAction) :
    (lb.step a).1.servers = lb.servers ∧ ((lb.step a).1.serverToSlot = lb.serverToSlot ∨
      ∃ i ws slot, lb.servers.get? i = some ws ∧
        (lb.step a).1.serverToSlot = lb.serverToSlot.insert ws slot) := by
  cases a with
  | recv i slot =>
    simp only [step]
    split
    · exact ⟨rfl, .inr ⟨i, _, slot, ‹_›, rfl⟩⟩
    · exact ⟨rfl, .inl rfl⟩
  | fetchMax i => simp only [step]; split <;> (try split) <;> exact ⟨rfl, .inl rfl⟩
  | send i => simp only [step]; split <;> (try split) <;> exact ⟨rfl, .inl rfl⟩

/-- A thread inserts only its own URL, which is already a key. -/
theorem KeysAre.step {lb : LoadBalancer} (h : lb.KeysAre) (a : LbAction) : (lb.step a).1.KeysAre := by
  intro ws
  obtain ⟨hs, hm | ⟨i, ws', slot, hws, hm⟩⟩ := step_frame lb a
  · rw [hs, hm, h ws]
  · rw [hs, hm, AList.mem_insert, ← h ws]
    exact ⟨fun h' => h'.elim (fun e => (h ws).mpr (e ▸ List.get?_mem hws)) id, .inr⟩

end LoadBalancer

/-! ## `get_highest_slot`, shard by shard -/

/-- The entries `DashMap::iter` visits, in order, with their shard: shard `i` holds the keys
`layout[i]`, in the order of its table. -/
def visitOrder : Nat → List (List String) → List (Nat × String)
  | _, [] => []
  | i, keys :: shards => keys.map (i, ·) ++ visitOrder (i + 1) shards

/-- The shard `ws` hashes to. -/
def shardOf (layout : List (List String)) (ws : String) : Nat :=
  layout.findIdx fun keys => decide (ws ∈ keys)

/-- A call of `get_highest_slot` in progress: the entries its iterator has still to visit, the
shard whose read guard the iterator holds, and the best entry of `max_by` so far, as
(shard, URL, slot). -/
structure HighestSlotRead where
  pending : List (Nat × String)
  held : Option Nat
  best : Option (Nat × String × Nat)
  deriving DecidableEq

/-- The shards a call keeps read-locked: the iterator's, and the one of `max_by`'s best entry. -/
def HighestSlotRead.holds (r : HighestSlotRead) (shard : Nat) : Bool :=
  decide (r.held = some shard) || decide (r.best.map (·.1) = some shard)

/-- One comparison of `Iterator::max_by`: `cmp::max_by` keeps the best entry so far only when it
compares `Greater`, so of equal slots the later entry wins. -/
def maxByStep : Option (Nat × String × Nat) → Nat × String × Nat → Nat × String × Nat
  | some best, e => if compare best.2.2 e.2.2 = .gt then best else e
  | none, e => e

/-- The end of `rpc_client`: the `unwrap` of `max_by`, then the `unwrap` of the lookup in
`server_to_rpc_client`; the server and slot `get_highest_slot` returned, and the client. -/
def rpcClientResult (clients : AList (fun _ : String => RpcClient)) :
    Option (Nat × String × Nat) → Except String (String × Nat × RpcClient)
  | none => .error "called `Option::unwrap()` on a `None` value"
  | some (_, ws, slot) =>
    match clients.lookup ws with
    | some client => .ok (ws, slot, client)
    | none => .error "called `Option::unwrap()` on a `None` value"

/-- The load balancer, and the calls of `get_highest_slot` in progress, by caller. -/
structure Selection where
  lb : LoadBalancer
  reads : AList (fun _ : Nat => HighestSlotRead)

/-- A step of a subscription thread, or of a caller of `rpc_client`. -/
inductive SelectionEvent
  /-- A subscription thread's step. -/
  | lb (a : LbAction)
  /-- Caller `j` enters `get_highest_slot`: `server_to_slot.iter()`. -/
  | start (j : Nat)
  /-- Caller `j`'s iterator yields its next entry, and `max_by` compares it. -/
  | next (j : Nat)
  /-- Caller `j`'s iterator is exhausted: `get_highest_slot` returns, and `rpc_client` looks up
  the client. -/
  | finish (j : Nat)

/-- What a caller of `rpc_client` gets: the server and slot of `get_highest_slot` and the
client, or the panic of an `unwrap`. -/
inductive SelectionLog
  | returned (j : Nat) (result : Except String (String × Nat × RpcClient))

/-- `LoadBalancer::new`, with no call in progress. -/
def Selection.new (servers : List (String × String)) : Selection :=
  ⟨LoadBalancer.new servers, ∅⟩

namespace Selection

section

variable (layout : List (List String)) (clients : AList (fun _ : String => RpcClient))

/-- The `insert` of thread step `a` waits: a call in progress holds its shard. -/
def blocks (s : Selection) : LbAction → Bool
  | .recv i _ =>
    match s.lb.servers.get? i with
    | some ws => s.reads.entries.any fun e => e.2.holds (shardOf layout ws)
    | none => false
  | _ => false

/-- One step, and what a caller got. A step that cannot be taken (a blocked `insert`, a caller
not in the matching phase) changes nothing. -/
def step (s : Selection) : SelectionEvent → Selection × List SelectionLog
  | .lb a => if s.blocks layout a then (s, []) else ({ s with lb := (s.lb.step a).1 }, [])
  | .start j =>
    match s.reads.lookup j with
    | some _ => (s, [])
    | none => ({ s with reads := s.reads.insert j ⟨visitOrder 0 layout, none, none⟩ }, [])
  | .next j =>
    match s.reads.lookup j with
    | some ⟨(shard, ws) :: pending, _, best⟩ =>
      let best' := match s.lb.serverToSlot.lookup ws with
        | some slot => some (maxByStep best (shard, ws, slot))
        | none => best
      ({ s with reads := s.reads.insert j ⟨pending, some shard, best'⟩ }, [])
    | _ => (s, [])
  | .finish j =>
    match s.reads.lookup j with
    | some ⟨[], _, best⟩ =>
      ({ s with reads := s.reads.erase j }, [.returned j (rpcClientResult clients best)])
    | _ => (s, [])

/-- A schedule of steps, and what the callers got, in order. -/
def run (s : Selection) : List SelectionEvent → Selection × List SelectionLog
  | [] => (s, [])
  | e :: es =>
    let p := s.step layout clients e
    let q := run p.1 es
    (q.1, p.2 ++ q.2)

end

end Selection

/-! ## Neither `unwrap` panics -/

theorem visitOrder_map_snd (i : Nat) (layout : List (List String)) :
    (visitOrder i layout).map Prod.snd = layout.flatten := by
  induction layout generalizing i with
  | nil => rfl
  | cons keys shards ih =>
    rw [visitOrder, List.map_append, ih, List.map_map, List.flatten_cons]
    exact congrArg (· ++ _) (List.map_id' keys)

theorem maxByStep_mem (best : Option (Nat × String × Nat)) (e : Nat × String × Nat) :
    maxByStep best e = e ∨ maxByStep best e ∈ best := by
  cases best with
  | none => exact .inl rfl
  | some b =>
    by_cases hgt : compare b.2.2 e.2.2 = .gt
    · exact .inr (by rw [maxByStep, if_pos hgt]; rfl)
    · exact .inl (by rw [maxByStep, if_neg hgt])

/-- A call in progress visits only the URLs `urls`, its best entry is one of them, and it has
entries left to visit while it has no best entry. -/
def HighestSlotRead.Ok (urls : List String) (r : HighestSlotRead) : Prop :=
  (∀ x ∈ r.pending, x.2 ∈ urls) ∧ (∀ b ∈ r.best, b.2.1 ∈ urls) ∧ (r.best = none → r.pending ≠ [])

namespace Selection

/-- What every reachable state keeps, for servers with websocket URLs `urls`. -/
structure Inv (urls : List String) (s : Selection) : Prop where
  servers : s.lb.servers = urls
  keys : s.lb.KeysAre
  reads : ∀ j r, s.reads.lookup j = some r → r.Ok urls

theorem Inv.new (servers : List (String × String)) :
    (Selection.new servers).Inv (servers.map Prod.snd) :=
  ⟨rfl, LoadBalancer.KeysAre.new servers, fun _ _ h => by simp [Selection.new] at h⟩

section

variable {urls : List String} {reads : AList (fun _ : Nat => HighestSlotRead)}

theorem ok_insert (h : ∀ j r, reads.lookup j = some r → r.Ok urls) {j : Nat}
    {r : HighestSlotRead} (hr : r.Ok urls) :
    ∀ j' r', (reads.insert j r).lookup j' = some r' → r'.Ok urls := by
  intro j' r' h'
  by_cases hj : j' = j
  · subst hj
    rw [AList.lookup_insert, Option.some.injEq] at h'
    exact h' ▸ hr
  · exact h j' r' (by rwa [AList.lookup_insert_ne hj] at h')

theorem ok_erase (h : ∀ j r, reads.lookup j = some r → r.Ok urls) (j : Nat) :
    ∀ j' r', (reads.erase j).lookup j' = some r' → r'.Ok urls := by
  intro j' r' h'
  by_cases hj : j' = j
  · subst hj
    rw [AList.lookup_erase] at h'
    cases h'
  · exact h j' r' (by rwa [AList.lookup_erase_ne hj] at h')

end

section

variable (layout : List (List String)) (clients : AList (fun _ : String => RpcClient))
  {urls : List String}

/-- Every step keeps `Inv`: a thread inserts only its own URL, a call visits only URLs, and each
of them is a key of `server_to_slot`, so a visit always gives `max_by` a best entry. -/
theorem Inv.step {s : Selection} (h : s.Inv urls) (hlayout : ∀ x ∈ visitOrder 0 layout, x.2 ∈ urls)
    (hne : visitOrder 0 layout ≠ []) (e : SelectionEvent) : (s.step layout clients e).1.Inv urls := by
  cases e with
  | lb a =>
    simp only [Selection.step]
    split
    · exact h
    · exact ⟨(LoadBalancer.step_frame s.lb a).1.trans h.servers, h.keys.step a, h.reads⟩
  | start j =>
    simp only [Selection.step]
    split
    · exact h
    · exact ⟨h.servers, h.keys, ok_insert h.reads ⟨hlayout, nofun, fun _ => hne⟩⟩
  | next j =>
    simp only [Selection.step]
    split
    · rename_i shard ws pending _ best hr
      obtain ⟨hp, hb, -⟩ := h.reads j _ hr
      have hws : ws ∈ urls := hp _ (List.mem_cons_self _ _)
      obtain ⟨slot, hslot⟩ := Option.isSome_iff_exists.mp
        (AList.lookup_isSome.mpr ((h.keys ws).mpr (h.servers ▸ hws)))
      simp only [hslot]
      refine ⟨h.servers, h.keys, ok_insert h.reads
        ⟨fun x hx => hp x (List.mem_cons_of_mem _ hx), ?_, nofun⟩⟩
      rintro b ⟨⟩
      rcases maxByStep_mem best (shard, ws, slot) with he | he
      · rw [he]
        exact hws
      · exact hb _ he
    · exact h
  | finish j =>
    simp only [Selection.step]
    split
    · exact ⟨h.servers, h.keys, ok_erase h.reads j⟩
    · exact h

/-- A call returns only with a best entry, whose URL is one of `urls`. -/
theorem Inv.step_log {s : Selection} (h : s.Inv urls) (e : SelectionEvent) :
    ∀ l ∈ (s.step layout clients e).2, ∃ j shard ws slot, ws ∈ urls ∧
      l = .returned j (rpcClientResult clients (some (shard, ws, slot))) := by
  cases e with
  | finish j =>
    simp only [Selection.step]
    split
    · rename_i _ best hr
      obtain ⟨-, hb, hn⟩ := h.reads j _ hr
      cases best with
      | none => exact absurd rfl (hn rfl)
      | some b =>
        intro l hl
        rw [List.mem_singleton.mp hl]
        exact ⟨j, b.1, b.2.1, b.2.2, hb b rfl, rfl⟩
    · simp
  | _ => simp only [Selection.step]; split <;> simp

/-- **Neither `unwrap` panics.** Every schedule from a state with `Inv` keeps it, and every call
returns the entry of one of the URLs. -/
theorem Inv.run {s : Selection} (h : s.Inv urls) (hlayout : ∀ x ∈ visitOrder 0 layout, x.2 ∈ urls)
    (hne : visitOrder 0 layout ≠ []) (es : List SelectionEvent) :
    (s.run layout clients es).1.Inv urls ∧ ∀ l ∈ (s.run layout clients es).2,
      ∃ j shard ws slot, ws ∈ urls ∧
        l = .returned j (rpcClientResult clients (some (shard, ws, slot))) := by
  induction es generalizing s with
  | nil => exact ⟨h, nofun⟩
  | cons e es ih =>
    obtain ⟨hi, hl⟩ := ih (h.step layout clients hlayout hne e)
    refine ⟨hi, fun l hm => ?_⟩
    rcases List.mem_append.mp hm with hm | hm
    · exact h.step_log layout clients e l hm
    · exact hl l hm

end

end Selection

/-- **`rpc_client` never panics, but can pick a stale server.** With at least one server and a
shard layout of exactly the websocket URLs, every schedule keeps the keys of both maps the URLs,
and every call returns the entry and client of a server. But `get_highest_slot` reads the shards
one after another while the threads insert: below it visits `p` at slot `1` and `s` at slot `2`,
then `p` moves to `100` and `q` to `5` in shards it no longer holds, and it returns `q` at `5`
while `p` is at `100`. -/
theorem rpc_client_not_freshest :
    (∀ (servers : List (String × String)) (layout : List (List String)) (es : List SelectionEvent),
      servers ≠ [] → (∀ ws, ws ∈ layout.flatten ↔ ws ∈ servers.map Prod.snd) →
      let r := (Selection.new servers).run layout (serverToRpcClient servers) es
      (∀ ws, ws ∈ r.1.lb.serverToSlot ↔ ws ∈ servers.map Prod.snd) ∧
      (∀ ws, ws ∈ serverToRpcClient servers ↔ ws ∈ servers.map Prod.snd) ∧
      ∀ l ∈ r.2, ∃ j ws slot client, l = .returned j (.ok (ws, slot, client)) ∧
        (serverToRpcClient servers).lookup ws = some client ∧ (client.url, ws) ∈ servers) ∧
    (let servers := [("http://p", "ws://p"), ("http://s", "ws://s"), ("http://q", "ws://q")]
     let r := (Selection.new servers).run [["ws://p"], ["ws://s"], ["ws://q"]]
       (serverToRpcClient servers)
       [.lb (.recv 0 1), .lb (.fetchMax 0), .lb (.send 0), .lb (.recv 1 2), .start 0, .next 0,
         .next 0, .lb (.recv 0 100), .lb (.recv 2 5), .next 0, .finish 0]
     r.2 = [.returned 0 (.ok ("ws://q", 5, ⟨"http://q"⟩))] ∧
       r.1.lb.serverToSlot.lookup "ws://p" = some 100 ∧
       r.1.lb.serverToSlot.lookup "ws://q" = some 5) := by
  refine ⟨fun servers layout es hs hlayout => ?_, ⟨rfl, rfl, rfl⟩⟩
  have hurls : ∀ x ∈ visitOrder 0 layout, x.2 ∈ servers.map Prod.snd := fun x hx =>
    (hlayout x.2).mp (visitOrder_map_snd 0 layout ▸ List.mem_map_of_mem Prod.snd hx)
  have hne : visitOrder 0 layout ≠ [] := fun h0 => by
    obtain ⟨s, hsm⟩ := List.exists_mem_of_ne_nil servers hs
    have hm := (hlayout s.2).mpr (List.mem_map_of_mem _ hsm)
    rw [← visitOrder_map_snd 0 layout, h0] at hm
    exact List.not_mem_nil _ hm
  obtain ⟨hi, hlog⟩ := (Selection.Inv.new servers).run layout (serverToRpcClient servers) hurls hne es
  refine ⟨fun ws => ?_, fun _ => mem_serverToRpcClient_iff, fun l hl => ?_⟩
  · rw [hi.keys ws, hi.servers]
  · obtain ⟨j, shard, ws, slot, hws, rfl⟩ := hlog l hl
    obtain ⟨c, hc, hurl⟩ := mem_serverToRpcClient hws
    exact ⟨j, ws, slot, c, by simp only [rpcClientResult, hc], hc, hurl⟩

end JitoRelayer
