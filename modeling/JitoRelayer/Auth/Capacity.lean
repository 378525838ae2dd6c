import JitoRelayer.Auth.Service

/-!
# The capacity of the challenge store

`generate_auth_challenge` compares `len()` with `AUTH_CHALLENGES_CAPACITY` and pushes in a later
acquisition of the lock, so the check does not bound the store. Each call that passes the check
adds at most one challenge, but any number of calls can pass it before the first pushes.

* `run_starts`, `run_gets`, `run_pushes`: `n` calls from `n` different IPs, scheduled so that
  all pass the `len()` check, then all find no challenge, then all push.
* `concurrent_issues_len`: the store then holds `n` challenges, for every `n`.
* `challenge_store_exceeds_capacity`: with `n = AUTH_CHALLENGES_CAPACITY + 1`, the store holds
  more than `AUTH_CHALLENGES_CAPACITY` challenges.
-/

namespace JitoRelayer

namespace AuthService

section Race

variable (cfg : AuthConfig) (schedule : LeaderSchedule) (req : GenerateAuthChallengeRequest)
  (token : String) (ips : Nat → IpAddr)

/-- The `n` calls arrive, and each runs up to its `len()`. -/
def starts (n : Nat) : List AuthEvent :=
  (List.range n).map fun k => .challengeStart (some (ips k)) req

/-- Each call runs up to its `push`. -/
def gets (n : Nat) : List AuthEvent :=
  (List.range n).map fun k => .challengeGet k schedule token

/-- Each call pushes. -/
def pushes (n : Nat) : List AuthEvent :=
  (List.range n).map .challengePush

theorem starts_succ (n : Nat) :
    starts req ips (n + 1) = starts req ips n ++ [.challengeStart (some (ips n)) req] := by
  simp [starts, List.range_succ]

theorem gets_succ (n : Nat) :
    gets schedule token (n + 1) = gets schedule token n ++ [.challengeGet n schedule token] := by
  simp [gets, List.range_succ]

theorem pushes_succ (n : Nat) : pushes (n + 1) = pushes n ++ [.challengePush n] := by
  simp [pushes, List.range_succ]

/-- **All pass the check.** Arrivals leave the store as it is, so each sees it below capacity. -/
theorem run_starts {s : AuthService} (hh : s.healthState = .Healthy)
    (hl : s.challenges.len < authChallengesCapacity) (hn : s.nextCall = 0) (n : Nat) :
    (s.run cfg (starts req ips n)).1.challenges = s.challenges ∧
    (s.run cfg (starts req ips n)).1.healthState = s.healthState ∧
    (s.run cfg (starts req ips n)).1.nextCall = n ∧
    ∀ k < n, (s.run cfg (starts req ips n)).1.calls k = .challengeLen (some (ips k)) req := by
  induction n with
  | zero => exact ⟨rfl, rfl, hn, fun k hk => absurd hk (Nat.not_lt_zero k)⟩
  | succ n ih =>
    obtain ⟨hq, hh', hn', hc⟩ := ih
    rw [starts_succ, run_snoc, step_challengeStart_of_lt cfg (hh'.trans hh) (hq ▸ hl)]
    refine ⟨hq, hh', by simp [hn'], fun k hk => ?_⟩
    simp only [hn']
    rcases Nat.lt_succ_iff_lt_or_eq.mp hk with hk | rfl
    · rw [setCall_calls_of_ne _ _ (Nat.ne_of_lt hk)]; exact hc k hk
    · exact setCall_calls_self _ _ _

/-- **All find no challenge.** Each call before its `push` issues one, and the store is only
read. -/
theorem run_gets {s : AuthService} {pk : Pubkey} (hreq : challengeRequestCheck cfg schedule req = .ok pk)
    {n : Nat} (hq : ∀ k < n, s.challenges.getPriority (ips k) = none)
    (hc : ∀ k < n, s.calls k = .challengeLen (some (ips k)) req) (m : Nat) (hm : m ≤ n) :
    (s.run cfg (gets schedule token m)).1.challenges = s.challenges ∧
    (s.run cfg (gets schedule token m)).1.now = s.now ∧
    (∀ k < m, (s.run cfg (gets schedule token m)).1.calls k =
      .challengePush (ips k) (newChallenge cfg s.now token (ips k) pk)) ∧
    ∀ k, m ≤ k → (s.run cfg (gets schedule token m)).1.calls k = s.calls k := by
  induction m with
  | zero => exact ⟨rfl, rfl, fun k hk => absurd hk (Nat.not_lt_zero k), fun _ _ => rfl⟩
  | succ m ih =>
    obtain ⟨hq', hnow, hp, hr⟩ := ih (Nat.le_of_succ_le hm)
    have hcm := (hr m le_rfl).trans (hc m hm)
    rw [gets_succ, run_snoc, step_challengeGet_issue cfg token hcm (hq' ▸ hq m hm) hreq]
    refine ⟨hq', hnow, fun k hk => ?_, fun k hk => ?_⟩
    · rcases Nat.lt_succ_iff_lt_or_eq.mp hk with hk | rfl
      · rw [setCall_calls_of_ne _ _ (Nat.ne_of_lt hk)]; exact hp k hk
      · rw [setCall_calls_self, hnow]
    · rw [setCall_calls_of_ne _ _ (by omega)]; exact hr k (by omega)

/-- **All push.** Their IPs are different, so each push adds a challenge. -/
theorem run_pushes {s : AuthService} {n : Nat} (c : Nat → AuthChallenge)
    (hinj : ∀ j < n, ∀ k < n, ips j = ips k → j = k)
    (hq : ∀ k < n, s.challenges.getPriority (ips k) = none)
    (hc : ∀ k < n, s.calls k = .challengePush (ips k) (c k)) (m : Nat) (hm : m ≤ n) :
    (s.run cfg (pushes m)).1.challenges.len = s.challenges.len + m ∧
    (∀ k, m ≤ k → k < n → (s.run cfg (pushes m)).1.challenges.getPriority (ips k) = none) ∧
    ∀ k, m ≤ k → (s.run cfg (pushes m)).1.calls k = s.calls k := by
  induction m with
  | zero => exact ⟨rfl, fun k _ hk => hq k hk, fun _ _ => rfl⟩
  | succ m ih =>
    obtain ⟨hl, hq', hr⟩ := ih (Nat.le_of_succ_le hm)
    rw [pushes_succ, run_snoc, step_challengePush cfg ((hr m le_rfl).trans (hc m hm))]
    refine ⟨?_, fun k hk hkn => ?_, fun k hk => ?_⟩
    · rw [AuthChallenges.len_push_of_getPriority_eq_none _ (hq' m le_rfl hm), hl]
      rfl
    · have hne : ips k ≠ ips m := fun h => by have := hinj k hkn m hm h; omega
      rw [AuthChallenges.getPriority_push, if_neg hne]
      exact hq' k (by omega) hkn
    · simp only
      rw [setCall_calls_of_ne _ _ (by omega)]; exact hr k (by omega)

/-- `n` concurrent first-time calls from `n` different IPs leave `n` challenges in the store. -/
theorem concurrent_issues_len {s : AuthService} {pk : Pubkey}
    (hreq : challengeRequestCheck cfg schedule req = .ok pk) (hh : s.healthState = .Healthy)
    (he : s.challenges = ∅) (hn : s.nextCall = 0) (n : Nat)
    (hinj : ∀ j < n, ∀ k < n, ips j = ips k → j = k) :
    (s.run cfg (starts req ips n ++ gets schedule token n ++ pushes n)).1.challenges.len = n := by
  obtain ⟨hq1, -, -, hc1⟩ := run_starts cfg req ips hh (by rw [he]; decide) hn n
  have hq : ∀ k < n, (s.run cfg (starts req ips n)).1.challenges.getPriority (ips k) = none :=
    fun _ _ => by rw [hq1, he]; rfl
  obtain ⟨hq2, -, hp2, -⟩ := run_gets cfg schedule req token ips hreq hq hc1 n le_rfl
  obtain ⟨hl3, -, -⟩ := run_pushes cfg ips (fun k => newChallenge cfg _ token (ips k) pk) hinj
    (fun k hk => hq2 ▸ hq k hk) hp2 n le_rfl
  rw [run_append, run_append, hl3, hq2, hq1, he]
  exact Nat.zero_add n

end Race

theorem ipV4_injective {j k : Nat} (hj : j < 2 ^ 32) (hk : k < 2 ^ 32)
    (h : IpAddr.V4 (BitVec.ofNat 32 j) = .V4 (BitVec.ofNat 32 k)) : j = k := by
  have := congrArg BitVec.toNat (IpAddr.V4.inj h)
  rwa [BitVec.toNat_ofNat, BitVec.toNat_ofNat, Nat.mod_eq_of_lt hj, Nat.mod_eq_of_lt hk] at this

/-- A hundred thousand and one `generate_auth_challenge` calls from different IPs all pass the
`len()` check before any pushes: the store ends with more than `AUTH_CHALLENGES_CAPACITY`
challenges. -/
theorem challenge_store_exceeds_capacity :
    let cfg : AuthConfig := ⟨.UserDefined [⟨List.replicate 32 7, rfl⟩],
      ⟨fun _ => true, fun _ => true, fun _ _ _ => true, fun _ => "pk", fun _ => some "jwt", fun _ => none⟩,
      10, 20, 5⟩
    let req : GenerateAuthChallengeRequest := ⟨2, List.replicate 32 7⟩
    let ips : Nat → IpAddr := fun k => .V4 (BitVec.ofNat 32 k)
    authChallengesCapacity < ((AuthService.init 0).run cfg (.healthWrite .Healthy ::
      (starts req ips (authChallengesCapacity + 1) ++ gets ∅ "aaaaaaaaa" (authChallengesCapacity + 1) ++
        pushes (authChallengesCapacity + 1)))).1.challenges.len := by
  intro cfg req ips
  have hreq : challengeRequestCheck cfg ∅ req = .ok ⟨List.replicate 32 7, rfl⟩ := by decide
  have hcap : authChallengesCapacity + 1 < 2 ^ 32 := by unfold authChallengesCapacity; decide
  have hlen := concurrent_issues_len cfg ∅ req "aaaaaaaaa" ips
    (s := ((AuthService.init 0).step cfg (.healthWrite .Healthy)).1) hreq rfl rfl rfl
    (authChallengesCapacity + 1) fun j hj k hk h => ipV4_injective (by omega) (by omega) h
  rw [run_cons_fst, hlen]
  exact Nat.lt_succ_self _

end AuthService

end JitoRelayer
