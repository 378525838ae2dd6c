import JitoRelayer.Relayer.ScheduleCache

/-!
# The leader-schedule refresh (`relayer/src/schedule_cache.rs`)

`update_leader_cache` asks the RPC for the epoch info and then for the leader schedule, builds a
new `HashMap` from the schedule's relative slots moved by `absolute_slot - slot_index`, and
replaces the shared map in one write under its `RwLock`. The readers of
`LeaderScheduleUpdatingHandle` hold the read lock for their whole call, so each reads one state
of the map. `Pubkey::from_str` is a parameter; the error of an RPC call is any type `ε`.

* `newSchedule`: the loop that builds the new map; `updateLeaderCache`: one call, its result and
  the map it leaves.
* `lookup_newSchedule`: when no relative slot is listed twice and no slot overflows, the new map
  sends an absolute slot to the pubkey whose key lists its relative slot, and has no other entry.
* `ScheduleCache.step`: one step of the refresh thread in its call (the two RPC calls, one
  iteration of the loop, the write) or one reader's call; `ScheduleCache.run`: an interleaving.
* `update_leader_cache_atomic`: one call interleaved with any reads. The call returns; when both
  RPC calls succeed it returns `true`; on `true` the map is the new one, on `false` it is
  unchanged, and every read sees the old or the new map whole.
* `Built`: the invariant of the refresh thread's loop over any number of calls; `Built.step`,
  `Built.run`: every step keeps it.
* `schedule_always_installed`: in every interleaving of any number of calls with reads, the map,
  and every map a read sees, is the initial one or one that a call built whole from an RPC
  schedule of the run.
-/

namespace JitoRelayer

/-- The fields of `EpochInfo` the refresh reads. -/
structure EpochInfo where
  absoluteSlot : Nat
  slotIndex : Nat
  deriving DecidableEq

/-- `RpcLeaderSchedule`: each validator identity, as a string, with the relative slots it
leads. -/
abbrev RpcLeaderSchedule := AList (fun _ : String => List Nat)

section Convert

variable (fromStr : String → Option Pubkey) (epochOffset : Nat)

/-- One iteration of `for (pk_str, slots) in leader_schedule.iter()`: when `pk_str` parses,
`*slot as u64 + epoch_offset` is inserted for each slot. -/
def insertSlots (newSchedule : LeaderSchedule) (entry : Σ _ : String, List Nat) : LeaderSchedule :=
  match fromStr entry.1 with
  | some pubkey =>
    entry.2.foldl (fun m slot => m.insert (wrappingAdd slot epochOffset) pubkey) newSchedule
  | none => newSchedule

/-- `new_schedule` once the loop is done. -/
def newSchedule (leaderSchedule : RpcLeaderSchedule) : LeaderSchedule :=
  leaderSchedule.entries.foldl (insertSlots fromStr epochOffset) ∅

/-- `update_leader_cache` on the results of its two RPC calls, and the shared map: `true` and
the new map when both succeed, `false` and the map unchanged otherwise. -/
def updateLeaderCache {ε : Type} (epochInfo : Except ε EpochInfo)
    (leaderSchedule : Except ε (Option RpcLeaderSchedule)) (schedule : LeaderSchedule) :
    Bool × LeaderSchedule :=
  match epochInfo, leaderSchedule with
  | .ok epochInfo, .ok (some leaderSchedule) =>
    (true, newSchedule fromStr (wrappingSub epochInfo.absoluteSlot epochInfo.slotIndex) leaderSchedule)
  | _, _ => (false, schedule)

/-- The inserts of one iteration, as (absolute slot, pubkey) pairs. -/
def slotPairs (entry : Σ _ : String, List Nat) : List (Nat × Pubkey) :=
  match fromStr entry.1 with
  | some pubkey => entry.2.map fun slot => (wrappingAdd slot epochOffset, pubkey)
  | none => []

/-- The nested loops insert the pairs of the entries in order. -/
theorem foldl_insertSlots (entries : List (Σ _ : String, List Nat)) (m : LeaderSchedule) :
    entries.foldl (insertSlots fromStr epochOffset) m =
      (entries.flatMap (slotPairs fromStr epochOffset)).foldl (fun m e => m.insert e.1 e.2) m := by
  induction entries generalizing m with
  | nil => rfl
  | cons e es ih =>
    rw [List.foldl_cons, ih, List.flatMap_cons, List.foldl_append]
    congr 1
    unfold insertSlots slotPairs
    split
    · rw [List.foldl_map]
    · rfl

variable {fromStr epochOffset} {leaderSchedule : RpcLeaderSchedule}

/-- A pair is inserted when a key that parses lists its relative slot. -/
theorem mem_slotPairs
    (hbound : ∀ s l r, leaderSchedule.lookup s = some l → r ∈ l → r + epochOffset < 2 ^ 64)
    {a : Nat} {pk : Pubkey} :
    (a, pk) ∈ leaderSchedule.entries.flatMap (slotPairs fromStr epochOffset) ↔
      ∃ s l r, leaderSchedule.lookup s = some l ∧ fromStr s = some pk ∧ r ∈ l ∧
        a = r + epochOffset := by
  rw [List.mem_flatMap]
  constructor
  · rintro ⟨e, he, hp⟩
    unfold slotPairs at hp
    split at hp
    · rename_i pk' hs
      obtain ⟨r, hr, hra⟩ := List.mem_map.mp hp
      simp only [Prod.mk.injEq] at hra
      have hl := AList.mem_lookup_iff.mpr he
      refine ⟨e.1, e.2, r, hl, hra.2 ▸ hs, hr, ?_⟩
      rw [← hra.1, wrappingAdd_of_lt (hbound _ _ _ hl hr)]
    · cases hp
  · rintro ⟨s, l, r, hl, hs, hr, rfl⟩
    refine ⟨⟨s, l⟩, AList.mem_lookup_iff.mp hl, ?_⟩
    simp only [slotPairs, hs]
    exact List.mem_map.mpr ⟨r, hr, by rw [wrappingAdd_of_lt (hbound _ _ _ hl hr)]⟩

/-- **The new map.** When every relative slot is listed under at most one key and no absolute
slot overflows, the new map sends `a` to `pk` exactly when a key that parses to `pk` lists the
relative slot `a - epochOffset`. -/
theorem lookup_newSchedule
    (hunique : ∀ s₁ s₂ l₁ l₂ r, leaderSchedule.lookup s₁ = some l₁ →
      leaderSchedule.lookup s₂ = some l₂ → r ∈ l₁ → r ∈ l₂ → s₁ = s₂)
    (hbound : ∀ s l r, leaderSchedule.lookup s = some l → r ∈ l → r + epochOffset < 2 ^ 64)
    (a : Nat) (pk : Pubkey) :
    (newSchedule fromStr epochOffset leaderSchedule).lookup a = some pk ↔
      ∃ s l r, leaderSchedule.lookup s = some l ∧ fromStr s = some pk ∧ r ∈ l ∧
        a = r + epochOffset := by
  rw [newSchedule, foldl_insertSlots, lookup_foldl_insert_of_functional, mem_slotPairs hbound]
  intro b pk₁ pk₂ h₁ h₂
  obtain ⟨s₁, l₁, r₁, hl₁, hs₁, hr₁, ha₁⟩ := (mem_slotPairs hbound).mp h₁
  obtain ⟨s₂, l₂, r₂, hl₂, hs₂, hr₂, ha₂⟩ := (mem_slotPairs hbound).mp h₂
  obtain rfl : r₁ = r₂ := by omega
  obtain rfl := hunique s₁ s₂ l₁ l₂ r₁ hl₁ hl₂ hr₁ hr₂
  exact Option.some.inj (hs₁.symm.trans hs₂)

end Convert

/-! ## The refresh thread and the readers -/

/-- Where the refresh thread is in `update_leader_cache`. -/
inductive Refresh
  /-- Between calls, or waiting on its RPC calls. -/
  | idle
  /-- Past both RPC calls, with the entries still to iterate and the local `new_schedule`. -/
  | building (epochOffset : Nat) (pending : List (Σ _ : String, List Nat))
      (newSchedule : LeaderSchedule)

/-- The shared map, behind its `RwLock`, and the refresh thread. -/
structure ScheduleCache where
  schedule : LeaderSchedule
  refresh : Refresh

/-- A call of `LeaderScheduleUpdatingHandle`. -/
inductive ScheduleRead
  | leaderForSlot (slot : Nat)
  | leadersForSlots (slots : List Nat)
  | isScheduledValidator (pubkey : Pubkey)

/-- What a reader's call returns. -/
inductive ReadResult
  | leader (pubkey : Option Pubkey)
  | leaders (pubkeys : List Pubkey)
  | scheduled (b : Bool)

/-- A reader's call on one state of the map. -/
def ScheduleRead.eval (schedule : LeaderSchedule) : ScheduleRead → ReadResult
  | .leaderForSlot slot => .leader (schedule.leaderForSlot slot)
  | .leadersForSlots slots => .leaders (schedule.leadersForSlots slots)
  | .isScheduledValidator pubkey => .scheduled (schedule.isScheduledValidator pubkey)

/-- One step of the refresh thread or of a reader. -/
inductive CacheEvent (ε : Type)
  /-- Both RPC calls of the refresh thread return. -/
  | rpc (epochInfo : Except ε EpochInfo) (leaderSchedule : Except ε (Option RpcLeaderSchedule))
  /-- One iteration of its loop over the schedule's entries. -/
  | iterate
  /-- `*schedule.write().unwrap() = new_schedule`. -/
  | replace
  /-- A reader's call, under one read lock. -/
  | read (q : ScheduleRead)

/-- A step of the refresh thread. -/
def CacheEvent.isRefresh {ε : Type} : CacheEvent ε → Bool
  | .read _ => false
  | _ => true

/-- What a step returns to its caller. -/
inductive CacheLog
  | updated (ok : Bool)
  | read (q : ScheduleRead) (result : ReadResult)

namespace ScheduleCache

variable (fromStr : String → Option Pubkey) {ε : Type}

/-- One step. A step the refresh thread is not at changes nothing. -/
def step (c : ScheduleCache) : CacheEvent ε → ScheduleCache × List CacheLog
  | .rpc epochInfo leaderSchedule =>
    match c.refresh, epochInfo, leaderSchedule with
    | .idle, .ok epochInfo, .ok (some leaderSchedule) =>
      let epochOffset := wrappingSub epochInfo.absoluteSlot epochInfo.slotIndex
      ({ c with refresh := .building epochOffset leaderSchedule.entries ∅ }, [])
    | .idle, _, _ => (c, [.updated false])
    | .building .., _, _ => (c, [])
  | .iterate =>
    match c.refresh with
    | .building epochOffset (entry :: pending) m =>
      ({ c with refresh := .building epochOffset pending (insertSlots fromStr epochOffset m entry) },
        [])
    | _ => (c, [])
  | .replace =>
    match c.refresh with
    | .building _ [] m => (⟨m, .idle⟩, [.updated true])
    | _ => (c, [])
  | .read q => (c, [.read q (q.eval c.schedule)])

/-- An interleaving of steps, and what they returned, in order. -/
def run (c : ScheduleCache) : List (CacheEvent ε) → ScheduleCache × List CacheLog
  | [] => (c, [])
  | e :: es =>
    let p := c.step fromStr e
    let q := run p.1 es
    (q.1, p.2 ++ q.2)

/-- The refresh thread's steps in one call of `update_leader_cache`. -/
def updateLeaderCacheSteps (epochInfo : Except ε EpochInfo)
    (leaderSchedule : Except ε (Option RpcLeaderSchedule)) : List (CacheEvent ε) :=
  .rpc epochInfo leaderSchedule :: match epochInfo, leaderSchedule with
    | .ok _, .ok (some leaderSchedule) =>
      List.replicate leaderSchedule.entries.length .iterate ++ [.replace]
    | _, _ => []

theorem run_append (c : ScheduleCache) (xs ys : List (CacheEvent ε)) :
    c.run fromStr (xs ++ ys) =
      ((c.run fromStr xs).1.run fromStr ys |>.1,
        (c.run fromStr xs).2 ++ ((c.run fromStr xs).1.run fromStr ys).2) := by
  induction xs generalizing c with
  | nil => rfl
  | cons x xs ih => simp [run, ih]

/-! ## Reads change nothing -/

/-- The state after an interleaving is the state after the refresh thread's steps alone. -/
theorem run_fst_filter (c : ScheduleCache) (es : List (CacheEvent ε)) :
    (c.run fromStr es).1 = (c.run fromStr (es.filter CacheEvent.isRefresh)).1 := by
  induction es generalizing c with
  | nil => rfl
  | cons e es ih =>
    cases e with
    | read q => exact ih c
    | _ => exact ih _

/-- `update_leader_cache` returns in an interleaving what it returns in its steps alone. -/
theorem mem_run_updated (c : ScheduleCache) (es : List (CacheEvent ε)) (b : Bool) :
    .updated b ∈ (c.run fromStr es).2 ↔
      .updated b ∈ (c.run fromStr (es.filter CacheEvent.isRefresh)).2 := by
  induction es generalizing c with
  | nil => rfl
  | cons e es ih =>
    cases e with
    | read q => simpa [run, step, CacheEvent.isRefresh] using ih c
    | _ => simp only [run, List.filter_cons, CacheEvent.isRefresh, if_true, List.mem_append, ih]

/-- A step of the refresh thread returns nothing but the result of `update_leader_cache`. -/
theorem step_log_refresh (c : ScheduleCache) {e : CacheEvent ε} (he : e.isRefresh)
    {x : CacheLog} (hx : x ∈ (c.step fromStr e).2) : ∃ b, x = .updated b := by
  cases e with
  | read => cases he
  | _ =>
    simp only [step] at hx
    split at hx <;> first | exact ⟨_, List.mem_singleton.mp hx⟩ | cases hx

/-- A read returns its call on the map after some of the refresh thread's steps. -/
theorem mem_run_read (c : ScheduleCache) (es : List (CacheEvent ε)) {q : ScheduleRead}
    {res : ReadResult} (h : .read q res ∈ (c.run fromStr es).2) :
    ∃ n, res = q.eval (c.run fromStr ((es.filter CacheEvent.isRefresh).take n)).1.schedule := by
  induction es generalizing c with
  | nil => cases h
  | cons e es ih =>
    simp only [run, List.mem_append] at h
    cases e with
    | read q' =>
      rcases h with h | h
      · simp only [step, List.mem_singleton, CacheLog.read.injEq] at h
        exact ⟨0, h.1 ▸ h.2⟩
      · exact ih c h
    | _ =>
      rcases h with h | h
      · obtain ⟨b, hb⟩ := step_log_refresh fromStr c (by rfl) h
        cases hb
      · obtain ⟨n, hn⟩ := ih _ h
        exact ⟨n + 1, hn⟩

/-! ## One call of `update_leader_cache` -/

/-- The loop: `j` iterations take the first `j` pending entries into `new_schedule`. -/
theorem run_iterate (schedule : LeaderSchedule) (epochOffset : Nat) :
    ∀ (j : Nat) (pending : List (Σ _ : String, List Nat)) (m : LeaderSchedule), j ≤ pending.length →
      (⟨schedule, .building epochOffset pending m⟩ : ScheduleCache).run fromStr
          (List.replicate j (.iterate : CacheEvent ε)) =
        (⟨schedule, .building epochOffset (pending.drop j)
          ((pending.take j).foldl (insertSlots fromStr epochOffset) m)⟩, [])
  | 0, _, _, _ => rfl
  | j + 1, e :: pending, m, h => by
    rw [List.replicate_succ, run]
    simp only [step, List.nil_append]
    rw [run_iterate schedule epochOffset j pending _ (by simpa using h)]
    rfl

/-- **One call alone.** The refresh thread's steps leave the map `update_leader_cache` leaves,
and return its result. -/
theorem run_updateLeaderCacheSteps (old : LeaderSchedule) (epochInfo : Except ε EpochInfo)
    (leaderSchedule : Except ε (Option RpcLeaderSchedule)) :
    (⟨old, .idle⟩ : ScheduleCache).run fromStr (updateLeaderCacheSteps epochInfo leaderSchedule) =
      (⟨(updateLeaderCache fromStr epochInfo leaderSchedule old).2, .idle⟩,
        [.updated (updateLeaderCache fromStr epochInfo leaderSchedule old).1]) := by
  unfold updateLeaderCacheSteps updateLeaderCache
  split
  · rename_i ei ls
    rw [run, run_append]
    simp only [step]
    rw [run_iterate fromStr old _ _ _ _ le_rfl, List.drop_length, List.take_length]
    rfl
  · simp only [run, step]
    rfl

/-- **No step of the call shows a partial map.** After any prefix of its steps the map is the
old one or the one the call leaves. -/
theorem schedule_run_take (old : LeaderSchedule) (epochInfo : Except ε EpochInfo)
    (leaderSchedule : Except ε (Option RpcLeaderSchedule)) (n : Nat) :
    let c := ((⟨old, .idle⟩ : ScheduleCache).run fromStr
      ((updateLeaderCacheSteps epochInfo leaderSchedule).take n)).1
    c.schedule = old ∨ c.schedule = (updateLeaderCache fromStr epochInfo leaderSchedule old).2 := by
  cases n with
  | zero => exact .inl rfl
  | succ k =>
    unfold updateLeaderCacheSteps updateLeaderCache
    split
    · rename_i ei ls
      rw [List.take_succ_cons, run]
      simp only [step]
      rw [List.take_append_eq_append_take, List.take_replicate, List.length_replicate, run_append,
        run_iterate fromStr old _ _ _ _ (Nat.min_le_right _ _)]
      by_cases hk : k ≤ ls.entries.length
      · rw [Nat.sub_eq_zero_of_le hk]
        exact .inl rfl
      · have hreplace : List.take (k - ls.entries.length) [(.replace : CacheEvent ε)] = [.replace] :=
          List.take_of_length_le (by simp only [List.length_singleton]; omega)
        rw [hreplace, min_eq_right (by omega), List.drop_length, List.take_length]
        exact .inr rfl
    · simp only [List.take_succ_cons, List.take_nil, run, step, true_or]

end ScheduleCache

/-- The new map of a call whose epoch info has `slot_index ≤ absolute_slot`: the offset does not
wrap once some slot is listed. -/
theorem lookup_newSchedule_epoch (fromStr : String → Option Pubkey) (ei : EpochInfo)
    (ls : RpcLeaderSchedule) (hslot : ei.slotIndex ≤ ei.absoluteSlot)
    (hunique : ∀ s₁ s₂ l₁ l₂ r, ls.lookup s₁ = some l₁ → ls.lookup s₂ = some l₂ → r ∈ l₁ →
      r ∈ l₂ → s₁ = s₂)
    (hbound : ∀ s l r, ls.lookup s = some l → r ∈ l → r + (ei.absoluteSlot - ei.slotIndex) < 2 ^ 64)
    (a : Nat) (pk : Pubkey) :
    (newSchedule fromStr (wrappingSub ei.absoluteSlot ei.slotIndex) ls).lookup a = some pk ↔
      ∃ s l r, ls.lookup s = some l ∧ fromStr s = some pk ∧ r ∈ l ∧
        a = r + (ei.absoluteSlot - ei.slotIndex) := by
  have hoff : ∀ s l r, ls.lookup s = some l → r ∈ l →
      wrappingSub ei.absoluteSlot ei.slotIndex = ei.absoluteSlot - ei.slotIndex :=
    fun s l r hl hr => wrappingSub_of_le hslot (by have := hbound s l r hl hr; omega)
  rw [lookup_newSchedule hunique fun s l r hl hr => hoff s l r hl hr ▸ hbound s l r hl hr]
  constructor
  · rintro ⟨s, l, r, hl, hs, hr, ha⟩
    exact ⟨s, l, r, hl, hs, hr, by rw [ha, hoff s l r hl hr]⟩
  · rintro ⟨s, l, r, hl, hs, hr, ha⟩
    exact ⟨s, l, r, hl, hs, hr, by rw [ha, hoff s l r hl hr]⟩

/-- **The refresh replaces the map atomically.** One call of `update_leader_cache`, its steps
interleaved with any reads, from any map `old`. The call returns. When both RPC calls succeed,
it returns `true` and leaves the map it built from the schedule. When it returns `true`, the
map sends each absolute slot to the pubkey whose key lists its relative slot, and has no other
entry, provided the epoch info has `slot_index ≤ absolute_slot`, no relative slot is listed
under two keys and no absolute slot overflows. When it returns `false`, the map is `old`. Every
read returns its call on `old` or on the final map. -/
theorem update_leader_cache_atomic (fromStr : String → Option Pubkey) {ε : Type}
    (old : LeaderSchedule) (epochInfo : Except ε EpochInfo)
    (leaderSchedule : Except ε (Option RpcLeaderSchedule))
    (hslot : ∀ ei, epochInfo = .ok ei → ei.slotIndex ≤ ei.absoluteSlot)
    (hunique : ∀ ls, leaderSchedule = .ok (some ls) → ∀ s₁ s₂ l₁ l₂ r, ls.lookup s₁ = some l₁ →
      ls.lookup s₂ = some l₂ → r ∈ l₁ → r ∈ l₂ → s₁ = s₂)
    (hbound : ∀ ei ls, epochInfo = .ok ei → leaderSchedule = .ok (some ls) →
      ∀ s l r, ls.lookup s = some l → r ∈ l → r + (ei.absoluteSlot - ei.slotIndex) < 2 ^ 64)
    (es : List (CacheEvent ε))
    (hes : es.filter CacheEvent.isRefresh =
      ScheduleCache.updateLeaderCacheSteps epochInfo leaderSchedule) :
    let r := (⟨old, .idle⟩ : ScheduleCache).run fromStr es
    (∃ ok, CacheLog.updated ok ∈ r.2) ∧
    (∀ ei ls, epochInfo = .ok ei → leaderSchedule = .ok (some ls) →
      CacheLog.updated true ∈ r.2 ∧
        r.1.schedule = newSchedule fromStr (wrappingSub ei.absoluteSlot ei.slotIndex) ls) ∧
    (CacheLog.updated true ∈ r.2 → ∃ ei ls, epochInfo = .ok ei ∧ leaderSchedule = .ok (some ls) ∧
      ∀ a pk, r.1.schedule.lookup a = some pk ↔
        ∃ s l rel, ls.lookup s = some l ∧ fromStr s = some pk ∧ rel ∈ l ∧
          a = rel + (ei.absoluteSlot - ei.slotIndex)) ∧
    (CacheLog.updated false ∈ r.2 → r.1.schedule = old) ∧
    ∀ q res, CacheLog.read q res ∈ r.2 → res = q.eval old ∨ res = q.eval r.1.schedule := by
  intro r
  have hfst : r.1 = ⟨(updateLeaderCache fromStr epochInfo leaderSchedule old).2, .idle⟩ := by
    rw [ScheduleCache.run_fst_filter, hes, ScheduleCache.run_updateLeaderCacheSteps]
  have hupd : ∀ b, CacheLog.updated b ∈ r.2 ↔
      b = (updateLeaderCache fromStr epochInfo leaderSchedule old).1 := fun b => by
    rw [ScheduleCache.mem_run_updated, hes, ScheduleCache.run_updateLeaderCacheSteps]
    simp
  refine ⟨⟨_, (hupd _).mpr rfl⟩, fun ei ls he hl => ?_, fun ht => ?_, fun hf => ?_,
    fun q res h => ?_⟩
  · subst he hl
    exact ⟨(hupd true).mpr rfl, by rw [hfst]; rfl⟩
  · rw [hupd] at ht
    rw [hfst]
    revert ht
    unfold updateLeaderCache
    split
    · rename_i ei ls
      exact fun _ => ⟨ei, ls, rfl, rfl,
        lookup_newSchedule_epoch fromStr ei ls (hslot ei rfl) (hunique ls rfl) (hbound ei ls rfl rfl)⟩
    · exact nofun
  · rw [hupd] at hf
    rw [hfst]
    revert hf
    unfold updateLeaderCache
    split
    · exact nofun
    · exact fun _ => rfl
  · obtain ⟨n, hn⟩ := ScheduleCache.mem_run_read fromStr _ es h
    rw [hes] at hn
    rw [hfst, hn]
    rcases ScheduleCache.schedule_run_take fromStr old epochInfo leaderSchedule n with h' | h'
    · exact .inl (by rw [h'])
    · exact .inr (by rw [h'])

/-- One key listing relative slots `0` and `1`, an epoch offset of `8`, and reads before, during
and after the call. -/
theorem update_leader_cache_one_key :
    let pk : Pubkey := ⟨List.replicate 32 1, rfl⟩
    let fromStr : String → Option Pubkey := fun s => if s = "a" then some pk else none
    let epochInfo : Except Unit EpochInfo := .ok ⟨10, 2⟩
    let leaderSchedule : Except Unit (Option RpcLeaderSchedule) :=
      .ok (some ((∅ : RpcLeaderSchedule).insert "a" [0, 1]))
    let es : List (CacheEvent Unit) := [.read (.leaderForSlot 8), .rpc epochInfo leaderSchedule,
      .iterate, .read (.leaderForSlot 8), .replace, .read (.leaderForSlot 8)]
    let r := (⟨∅, .idle⟩ : ScheduleCache).run fromStr es
    (∀ ei, epochInfo = .ok ei → ei.slotIndex ≤ ei.absoluteSlot) ∧
    (∀ ls, leaderSchedule = .ok (some ls) → ∀ s₁ s₂ l₁ l₂ r, ls.lookup s₁ = some l₁ →
      ls.lookup s₂ = some l₂ → r ∈ l₁ → r ∈ l₂ → s₁ = s₂) ∧
    (∀ ei ls, epochInfo = .ok ei → leaderSchedule = .ok (some ls) →
      ∀ s l r, ls.lookup s = some l → r ∈ l → r + (ei.absoluteSlot - ei.slotIndex) < 2 ^ 64) ∧
    es.filter CacheEvent.isRefresh = ScheduleCache.updateLeaderCacheSteps epochInfo leaderSchedule ∧
    (∃ ok, CacheLog.updated ok ∈ r.2) ∧
    (∀ ei ls, epochInfo = .ok ei → leaderSchedule = .ok (some ls) →
      CacheLog.updated true ∈ r.2 ∧
        r.1.schedule = newSchedule fromStr (wrappingSub ei.absoluteSlot ei.slotIndex) ls) ∧
    (CacheLog.updated true ∈ r.2 → ∃ ei ls, epochInfo = .ok ei ∧ leaderSchedule = .ok (some ls) ∧
      ∀ a pk, r.1.schedule.lookup a = some pk ↔
        ∃ s l rel, ls.lookup s = some l ∧ fromStr s = some pk ∧ rel ∈ l ∧
          a = rel + (ei.absoluteSlot - ei.slotIndex)) ∧
    (CacheLog.updated false ∈ r.2 → r.1.schedule = ∅) ∧
    ∀ q res, CacheLog.read q res ∈ r.2 → res = q.eval ∅ ∨ res = q.eval r.1.schedule := by
  have hkey : ∀ s l, ((∅ : RpcLeaderSchedule).insert "a" [0, 1]).lookup s = some l →
      s = "a" ∧ l = [0, 1] := fun s l h => by
    by_cases hs : s = "a"
    · subst hs
      simp only [AList.lookup_insert, Option.some.injEq] at h
      exact ⟨rfl, h.symm⟩
    · rw [AList.lookup_insert_ne hs, AList.lookup_empty] at h
      cases h
  refine ⟨?hslot, ?hunique, ?hbound, rfl,
    update_leader_cache_atomic _ ∅ _ _ ?hslot ?hunique ?hbound _ rfl⟩
  case hslot => rintro ei ⟨⟩; decide
  case hunique =>
    rintro ls ⟨⟩ s₁ s₂ l₁ l₂ - h₁ h₂ - -
    rw [(hkey s₁ l₁ h₁).1, (hkey s₂ l₂ h₂).1]
  case hbound =>
    rintro ei ls ⟨⟩ ⟨⟩ s l r hs hr
    obtain ⟨-, rfl⟩ := hkey s l hs
    simp only [List.mem_cons, List.mem_singleton, List.not_mem_nil, or_false] at hr
    rcases hr with rfl | rfl <;> decide

/-! ## The refresh thread's loop -/

namespace ScheduleCache

variable (fromStr : String → Option Pubkey) {ε : Type} (old : LeaderSchedule)

/-- A map that a run from `old` may show: `old`, or the new map of a call of the run whose two
RPC calls succeeded. -/
def Installable (es : List (CacheEvent ε)) (m : LeaderSchedule) : Prop :=
  m = old ∨ ∃ ei ls, CacheEvent.rpc (.ok ei) (.ok (some ls)) ∈ es ∧
    m = newSchedule fromStr (wrappingSub ei.absoluteSlot ei.slotIndex) ls

/-- The invariant after the events `es`: the shared map is installable, and a call in its loop
holds, for one RPC schedule of `es`, the entries after the first `k` and the map built from
those `k`. -/
def Built (es : List (CacheEvent ε)) (c : ScheduleCache) : Prop :=
  Installable fromStr old es c.schedule ∧
    match c.refresh with
    | .idle => True
    | .building epochOffset pending m =>
      ∃ ei ls k, CacheEvent.rpc (.ok ei) (.ok (some ls)) ∈ es ∧
        epochOffset = wrappingSub ei.absoluteSlot ei.slotIndex ∧ pending = ls.entries.drop k ∧
        m = (ls.entries.take k).foldl (insertSlots fromStr epochOffset) ∅

variable {fromStr old}

theorem Installable.mono {es es' : List (CacheEvent ε)} {m : LeaderSchedule}
    (h : Installable fromStr old es m) (hs : es ⊆ es') : Installable fromStr old es' m :=
  h.imp_right fun ⟨ei, ls, hm, he⟩ => ⟨ei, ls, hs hm, he⟩

theorem Built.mono {es es' : List (CacheEvent ε)} {c : ScheduleCache} (h : Built fromStr old es c)
    (hs : es ⊆ es') : Built fromStr old es' c := by
  refine ⟨h.1.mono hs, ?_⟩
  have hb := h.2
  split at hb
  · trivial
  · obtain ⟨ei, ls, k, hm, hrest⟩ := hb
    exact ⟨ei, ls, k, hs hm, hrest⟩

/-- **One step keeps the invariant**: the two RPC calls start the loop at `k = 0`, an iteration
moves to `k + 1`, and the write installs the map of all the entries. -/
theorem Built.step {es : List (CacheEvent ε)} {c : ScheduleCache} (h : Built fromStr old es c)
    (e : CacheEvent ε) : Built fromStr old (es ++ [e]) (c.step fromStr e).1 := by
  have hsub : es ⊆ es ++ [e] := List.subset_append_left _ _
  have hmem : e ∈ es ++ [e] := List.mem_append_right _ (List.mem_singleton_self _)
  obtain ⟨hi, hb⟩ := h
  cases e with
  | rpc epochInfo leaderSchedule =>
    simp only [ScheduleCache.step]
    split
    · exact ⟨hi.mono hsub, _, _, 0, hmem, rfl, rfl, rfl⟩
    all_goals exact Built.mono ⟨hi, hb⟩ hsub
  | iterate =>
    simp only [ScheduleCache.step]
    split
    · rename_i epochOffset entry pending m hc
      rw [hc] at hb
      obtain ⟨ei, ls, k, hm, hoff, hpend, hmk⟩ := hb
      have htake : ls.entries.take (k + 1) = ls.entries.take k ++ [entry] := by
        rw [List.take_succ, ← List.head?_drop, ← hpend]; rfl
      refine ⟨hi.mono hsub, ei, ls, k + 1, hsub hm, hoff, ?_, ?_⟩
      · rw [← List.tail_drop, ← hpend]; rfl
      · rw [htake, List.foldl_append, ← hmk]; rfl
    · exact Built.mono ⟨hi, hb⟩ hsub
  | replace =>
    simp only [ScheduleCache.step]
    split
    · rename_i epochOffset m hc
      rw [hc] at hb
      obtain ⟨ei, ls, k, hm, hoff, hpend, hmk⟩ := hb
      rw [List.take_of_length_le (List.drop_eq_nil_iff.mp hpend.symm)] at hmk
      exact ⟨.inr ⟨ei, ls, hsub hm, by rw [hmk, hoff]; rfl⟩, trivial⟩
    · exact Built.mono ⟨hi, hb⟩ hsub
  | read q => exact Built.mono ⟨hi, hb⟩ hsub

/-- Over a run the invariant holds, and every read returns its call on an installable map. -/
theorem Built.run {es : List (CacheEvent ε)} {c : ScheduleCache} (h : Built fromStr old es c)
    (es' : List (CacheEvent ε)) :
    Built fromStr old (es ++ es') (c.run fromStr es').1 ∧
      ∀ q res, CacheLog.read q res ∈ (c.run fromStr es').2 →
        ∃ m, Installable fromStr old (es ++ es') m ∧ res = q.eval m := by
  induction es' generalizing es c with
  | nil => simpa [ScheduleCache.run] using h
  | cons e es' ih =>
    obtain ⟨hb, hr⟩ := ih (h.step e)
    rw [List.append_assoc, List.singleton_append] at hb hr
    refine ⟨hb, fun q res hq => ?_⟩
    rcases List.mem_append.mp hq with hq | hq
    · cases e with
      | read q' =>
        simp only [ScheduleCache.step, List.mem_singleton, CacheLog.read.injEq] at hq
        obtain ⟨rfl, rfl⟩ := hq
        exact ⟨c.schedule, h.1.mono (List.subset_append_left _ _), rfl⟩
      | _ =>
        obtain ⟨b, hb'⟩ := step_log_refresh fromStr c (by rfl) hq
        cases hb'
    · exact hr q res hq

/-- **Readers only ever see a whole map.** In every interleaving of the refresh thread's loop,
over any number of `update_leader_cache` calls with any RPC results, with any reads, the shared
map is the initial one or the map that some call of the run built from all the entries of an
RPC schedule it received, and every read returns its call on such a map: no read sees a map in
construction or one mixing two schedules. -/
theorem schedule_always_installed (old : LeaderSchedule) (es : List (CacheEvent ε)) :
    let r := (⟨old, .idle⟩ : ScheduleCache).run fromStr es
    (r.1.schedule = old ∨ ∃ ei ls, CacheEvent.rpc (.ok ei) (.ok (some ls)) ∈ es ∧
        r.1.schedule = newSchedule fromStr (wrappingSub ei.absoluteSlot ei.slotIndex) ls) ∧
      ∀ q res, CacheLog.read q res ∈ r.2 → res = q.eval old ∨
        ∃ ei ls, CacheEvent.rpc (.ok ei) (.ok (some ls)) ∈ es ∧
          res = q.eval (newSchedule fromStr (wrappingSub ei.absoluteSlot ei.slotIndex) ls) := by
  obtain ⟨⟨hs, -⟩, hr⟩ := (show Built fromStr old [] ⟨old, .idle⟩ from ⟨.inl rfl, trivial⟩).run es
  refine ⟨hs, fun q res hq => ?_⟩
  obtain ⟨m, hm | ⟨ei, ls, he, rfl⟩, rfl⟩ := hr q res hq
  · exact .inl (by rw [hm])
  · exact .inr ⟨ei, ls, he, rfl⟩

end ScheduleCache

end JitoRelayer
