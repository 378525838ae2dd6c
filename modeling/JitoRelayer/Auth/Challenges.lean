import JitoRelayer.Basic
import Mathlib.Data.List.MinMax

/-!
# The challenge store (`relayer/src/auth_challenges.rs`)

`AuthChallenges` is a `KeyedPriorityQueue<IpAddr, Reverse<AuthChallenge>>` behind one
`tokio::sync::Mutex`: at most one challenge per IP, ordered by `expires_at_utc`, earliest first.
Each method takes the lock once, so each is one atomic step of the service.

* `AuthChallenges.push`, `len`, `getPriority`, `remove`, `removeAllExpired`: the five methods.
  `removeAllExpired` is the loop of the source: pop the earliest challenge while it is expired.
* `removeAllExpiredAt`: the same loop with `Utc::now()` read anew at each `is_expired`.
* `removeAllExpiredAt_getPriority`: for every queue and every clock that does not go back
  during the call, the loop stops within `len` turns and leaves exactly the challenges not
  expired at the moment it stops, each under its IP; `lookup_removeAllExpired` is the case of a
  clock that stands still.
-/

namespace JitoRelayer

/-- Modelled from the spec: `auth_interceptor::Claims`, whose file is not in the sources, is the
payload of a token, `{ client_ip, client_pubkey, expires_at_utc }`. -/
structure Claims where
  clientIp : IpAddr
  clientPubkey : Pubkey
  expiresAtUtc : Int
  deriving DecidableEq

/-- `AuthChallenge`. -/
structure AuthChallenge where
  challenge : String
  accessClaims : Claims
  refreshClaims : Claims
  expiresAtUtc : Int
  deriving DecidableEq

/-- `AuthChallenge::is_expired`, with `Utc::now()` at `now`. -/
def AuthChallenge.isExpired (c : AuthChallenge) (now : Int) : Bool :=
  decide (c.expiresAtUtc ≤ now)

/-- The queue behind the mutex: one challenge per IP. -/
abbrev AuthChallenges := AList (fun _ : IpAddr => AuthChallenge)

namespace AuthChallenges

/-- `push`: adds the challenge of `ip`, replacing the one it had. -/
def push (q : AuthChallenges) (ip : IpAddr) (c : AuthChallenge) : AuthChallenges :=
  q.insert ip c

/-- `len`. -/
def len (q : AuthChallenges) : Nat :=
  q.entries.length

/-- `get_priority`: the challenge of `ip`, expired or not. -/
def getPriority (q : AuthChallenges) (ip : IpAddr) : Option AuthChallenge :=
  q.lookup ip

/-- `remove`. -/
def remove (q : AuthChallenges) (ip : IpAddr) : AuthChallenges :=
  q.erase ip

/-- `peek` of the `Reverse`-ordered queue: a challenge that expires first. -/
def peek (q : AuthChallenges) : Option (Σ _ : IpAddr, AuthChallenge) :=
  q.entries.argmin (·.2.expiresAtUtc)

/-- `remove_all_expired`: pop the earliest challenge while it is expired. -/
def removeAllExpired (now : Int) (q : AuthChallenges) : AuthChallenges :=
  go q.len q
where
  /-- The `while let` loop; each turn pops one challenge, so `len` turns suffice. -/
  go : Nat → AuthChallenges → AuthChallenges
    | 0, q => q
    | n + 1, q =>
      match peek q with
      | some e => if e.2.isExpired now then go n (remove q e.1) else q
      | none => q

/-- `remove_all_expired` with `Utc::now()` read at each `is_expired`: the `k`-th check of the
loop reads `clock k`. Returns the queue and the number of the check at which the loop stopped
(the number of checks made, when the queue ran empty). -/
def removeAllExpiredAt (clock : Nat → Int) (q : AuthChallenges) : AuthChallenges × Nat :=
  goAt 0 q.len q
where
  /-- The loop from check `k` on, with `n` turns of fuel. -/
  goAt : Nat → Nat → AuthChallenges → AuthChallenges × Nat
    | k, 0, q => (q, k)
    | k, n + 1, q =>
      match peek q with
      | some e => if e.2.isExpired (clock k) then goAt (k + 1) n (remove q e.1) else (q, k)
      | none => (q, k)

theorem getPriority_push (q : AuthChallenges) (ip ip' : IpAddr) (c : AuthChallenge) :
    (q.push ip c).getPriority ip' = if ip' = ip then some c else q.getPriority ip' := by
  by_cases h : ip' = ip
  · subst h; simp [push, getPriority]
  · simp [push, getPriority, h, AList.lookup_insert_ne h]

theorem getPriority_remove (q : AuthChallenges) (ip ip' : IpAddr) :
    (q.remove ip).getPriority ip' = if ip' = ip then none else q.getPriority ip' := by
  by_cases h : ip' = ip
  · subst h; simp [remove, getPriority]
  · simp [remove, getPriority, h, AList.lookup_erase_ne h]

/-- A push of a new IP adds one challenge. -/
theorem len_push_of_getPriority_eq_none {q : AuthChallenges} {ip : IpAddr} (c : AuthChallenge)
    (h : q.getPriority ip = none) : (q.push ip c).len = q.len + 1 := by
  rw [push, len, AList.insert_entries_of_neg (AList.lookup_eq_none.mp h), List.length_cons]; rfl

theorem len_erase_of_mem {q : AuthChallenges} {e : Σ _ : IpAddr, AuthChallenge} (h : e ∈ q.entries) :
    (q.remove e.1).len = q.len - 1 := by
  have hk : e.1 ∈ q.keys := List.mem_keys_of_mem h
  calc (q.remove e.1).len = (q.erase e.1).keys.length := by simp [remove, len, AList.keys, List.keys]
    _ = q.keys.length - 1 := by rw [AList.keys_erase, List.length_erase_of_mem hk]
    _ = q.len - 1 := by simp [len, AList.keys, List.keys]

theorem peek_mem {q : AuthChallenges} {e : Σ _ : IpAddr, AuthChallenge} (h : q.peek = some e) :
    e ∈ q.entries :=
  List.argmin_mem h

/-- `peek` returns a challenge that expires no later than any stored one. -/
theorem peek_le {q : AuthChallenges} {e : Σ _ : IpAddr, AuthChallenge} (h : q.peek = some e)
    {ip : IpAddr} {c : AuthChallenge} (hc : q.lookup ip = some c) :
    e.2.expiresAtUtc ≤ c.expiresAtUtc :=
  List.le_of_mem_argmin (f := fun x : Σ _ : IpAddr, AuthChallenge => x.2.expiresAtUtc)
    (AList.mem_lookup_iff.mp hc) h

theorem lookup_of_peek_eq_none {q : AuthChallenges} (h : q.peek = none) (ip : IpAddr) :
    q.lookup ip = none := by
  simp [AList.lookup, List.argmin_eq_none.mp h]

/-- The loop with a clock that does not go back, by the fuel it needs: it stops at a check
no earlier than the first, leaving the challenges not expired at that check. -/
theorem lookup_goAt {clock : Nat → Int} (hmono : Monotone clock) (ip : IpAddr) :
    ∀ (n k : Nat) (q : AuthChallenges), q.len ≤ n →
      k ≤ (removeAllExpiredAt.goAt clock k n q).2 ∧
        (removeAllExpiredAt.goAt clock k n q).1.lookup ip =
          (q.lookup ip).filter (!·.isExpired (clock (removeAllExpiredAt.goAt clock k n q).2))
  | 0, k, q, h => by
    have : q.entries = [] := List.eq_nil_of_length_eq_zero (Nat.le_zero.mp h)
    simp [removeAllExpiredAt.goAt, AList.lookup, this]
  | n + 1, k, q, h => by
    simp only [removeAllExpiredAt.goAt]
    split
    · rename_i e he
      split
      · rename_i hx
        obtain ⟨hk, hl⟩ := lookup_goAt hmono ip n (k + 1) _
          (by rw [len_erase_of_mem (peek_mem he)]; omega)
        refine ⟨by omega, ?_⟩
        rw [hl]
        by_cases hip : ip = e.1
        · subst hip
          have hexp : e.2.isExpired (clock (removeAllExpiredAt.goAt clock (k + 1) n (remove q e.1)).2) := by
            simp only [AuthChallenge.isExpired, decide_eq_true_eq] at hx ⊢
            exact hx.trans (hmono (by omega))
          rw [remove] at hexp ⊢
          rw [AList.lookup_erase, AList.mem_lookup_iff.mpr (peek_mem he)]
          simp [Option.filter, hexp]
        · rw [remove, AList.lookup_erase_ne hip]
      · rename_i hx
        refine ⟨le_rfl, ?_⟩
        cases hl : q.lookup ip with
        | none => rfl
        | some c =>
          have hle := peek_le he hl
          have : c.isExpired (clock k) = false := by
            simp only [AuthChallenge.isExpired, decide_eq_true_eq, decide_eq_false_iff_not] at hx ⊢
            omega
          simp [Option.filter, this]
    · exact ⟨le_rfl, by rw [lookup_of_peek_eq_none ‹_›]; rfl⟩

/-- **The sweep removes exactly the expired challenges**, whatever the clock does during the
call as long as it does not go back: the loop stops within `len` turns, leaving exactly the
challenges not expired at the moment it stops, each under its own IP. -/
theorem removeAllExpiredAt_getPriority (clock : Nat → Int) (hmono : Monotone clock)
    (q : AuthChallenges) (ip : IpAddr) :
    (q.removeAllExpiredAt clock).1.getPriority ip =
      (q.getPriority ip).filter (!·.isExpired (clock (q.removeAllExpiredAt clock).2)) :=
  (lookup_goAt hmono ip q.len 0 q le_rfl).2

/-- Two challenges, expiring at `3` and `5`, swept with a clock that reads `4` then `6`: the
first check pops the one expiring at `3`, the second the one expiring at `5`. -/
theorem removeAllExpiredAt_two_challenges :
    let c (t : Int) : AuthChallenge := ⟨"aaaaaaaaa", ⟨.V4 0, ⟨List.replicate 32 0, rfl⟩, t⟩,
      ⟨.V4 0, ⟨List.replicate 32 0, rfl⟩, t⟩, t⟩
    let q : AuthChallenges := ((∅ : AuthChallenges).insert (.V4 1) (c 3)).insert (.V4 2) (c 5)
    let clock : Nat → Int := fun k => 2 * k + 4
    Monotone clock ∧ (q.removeAllExpiredAt clock).1.getPriority (.V4 2) =
      (q.getPriority (.V4 2)).filter (!·.isExpired (clock (q.removeAllExpiredAt clock).2)) :=
  have hmono : Monotone fun k : Nat => 2 * (k : Int) + 4 := fun a b h =>
    show 2 * (a : Int) + 4 ≤ 2 * (b : Int) + 4 by omega
  ⟨hmono, removeAllExpiredAt_getPriority _ hmono _ _⟩

/-- The sweep of the service reads the clock once. -/
theorem go_eq_goAt (now : Int) : ∀ (n k : Nat) (q : AuthChallenges),
    removeAllExpired.go now n q = (removeAllExpiredAt.goAt (fun _ => now) k n q).1
  | 0, _, _ => rfl
  | n + 1, k, q => by
    simp only [removeAllExpired.go, removeAllExpiredAt.goAt]
    split
    · split
      · exact go_eq_goAt now n (k + 1) _
      · rfl
    · rfl

/-- **The sweep removes exactly the expired challenges.** -/
theorem lookup_removeAllExpired (now : Int) (q : AuthChallenges) (ip : IpAddr) :
    (q.removeAllExpired now).getPriority ip = (q.getPriority ip).filter (!·.isExpired now) := by
  rw [removeAllExpired, go_eq_goAt now _ 0]
  exact (lookup_goAt (fun _ _ _ => le_rfl) ip q.len 0 q le_rfl).2

end AuthChallenges

end JitoRelayer
