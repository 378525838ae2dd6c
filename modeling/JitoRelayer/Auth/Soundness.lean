import JitoRelayer.Auth.Service

/-!
# Authentication soundness

Whatever the interleaving of the calls and the sweeps, a `generate_auth_tokens` that returns
`Ok` minted its tokens from a challenge that a `generate_auth_challenge` of the same IP pushed
after `is_authorized` returned `true` for the pubkey of the request.

* `AuthService.Sound`: the invariant. Every stored challenge, and the one that each call
  between its `get_priority` and its `remove` holds, was so pushed, with claims naming its IP
  and pubkey; a call before its `push` has been authorized.
* `Sound.step`, `Sound.run`: every step keeps it.
* `tokens_ok_sound`: the soundness of every `Ok` of `generate_auth_tokens`.
* `expired_challenge_exchanged`: the challenge need not be live; one that has expired is
  exchanged until a sweep removes it.
-/

namespace JitoRelayer

namespace AuthService

variable {cfg : AuthConfig}

/-- The claims of `c` name `ip` and `pk`. -/
def BoundTo (ip : IpAddr) (pk : Pubkey) (c : AuthChallenge) : Prop :=
  c.accessClaims.clientIp = ip ∧ c.accessClaims.clientPubkey = pk ∧
    c.refreshClaims.clientIp = ip ∧ c.refreshClaims.clientPubkey = pk

/-- `c` was pushed for `ip` by a call in which `is_authorized` had returned `true` for the
pubkey its claims name. -/
def Pushed (log : List AuthLog) (ip : IpAddr) (c : AuthChallenge) : Prop :=
  ∃ m pk, [.authorized m pk, .pushed m ip c].Sublist log ∧ BoundTo ip pk c

/-- The `Ok` of call `i` of `generate_auth_tokens` came from such a challenge, after it. -/
def Minted (cfg : AuthConfig) (log : List AuthLog) (i : Nat) (ip : IpAddr)
    (req : GenerateAuthTokensRequest) (resp : GenerateAuthTokensResponse) : Prop :=
  ∃ m pk c, [.authorized m pk, .pushed m ip c, .tokensReturned i (some ip) req (.ok resp)].Sublist log ∧
    pk.bytes = req.clientPubkey ∧ BoundTo ip pk c ∧ TokensChecked cfg pk c req resp

theorem Pushed.mono {log : List AuthLog} {ip : IpAddr} {c : AuthChallenge} (h : Pushed log ip c)
    (l : List AuthLog) : Pushed (log ++ l) ip c :=
  let ⟨m, pk, hs, hb⟩ := h
  ⟨m, pk, hs.trans (List.sublist_append_left _ _), hb⟩

theorem Minted.mono {log : List AuthLog} {i : Nat} {ip : IpAddr} {req : GenerateAuthTokensRequest}
    {resp : GenerateAuthTokensResponse} (h : Minted cfg log i ip req resp) (l : List AuthLog) :
    Minted cfg (log ++ l) i ip req resp :=
  let ⟨m, pk, c, hs, hb⟩ := h
  ⟨m, pk, c, hs.trans (List.sublist_append_left _ _), hb⟩

/-- What a call holds between two steps: a call before its `push` has been authorized for
the pubkey its challenge names; a call before its `remove` holds a challenge pushed for its
IP and has checked it. -/
def CallOk (cfg : AuthConfig) (log : List AuthLog) (i : Nat) : Call → Prop
  | .challengePush ip c => ∃ pk, .authorized i pk ∈ log ∧ BoundTo ip pk c
  | .tokensRemove ip req c resp =>
    Pushed log ip c ∧ ∃ pk, pk.bytes = req.clientPubkey ∧ TokensChecked cfg pk c req resp
  | .challengeLen _ _ | .done => True

theorem CallOk.mono {log : List AuthLog} {i : Nat} {c : Call} (h : CallOk cfg log i c)
    (l : List AuthLog) : CallOk cfg (log ++ l) i c := by
  cases c with
  | challengePush ip c =>
    obtain ⟨pk, ha, hb⟩ := h
    exact ⟨pk, List.mem_append_left _ ha, hb⟩
  | tokensRemove ip req c resp => exact h.imp (·.mono l) id
  | challengeLen | done => trivial

/-- The invariant of every run. -/
structure Sound (cfg : AuthConfig) (s : AuthService) (log : List AuthLog) : Prop where
  stored : ∀ ip c, s.challenges.getPriority ip = some c → Pushed log ip c
  calls : ∀ i, CallOk cfg log i (s.calls i)
  minted : ∀ i ip req resp, .tokensReturned i ip req (.ok resp) ∈ log →
    ∃ ip', ip = some ip' ∧ Minted cfg log i ip' req resp

theorem Sound.init (start : Int) : Sound cfg (AuthService.init start) [] :=
  ⟨fun _ _ h => by simp [AuthService.init, AuthChallenges.getPriority] at h,
    fun _ => trivial, fun _ _ _ _ h => by cases h⟩

/-- A step that adds no `Ok` of `generate_auth_tokens` keeps `minted`. -/
theorem Sound.extend {s s' : AuthService} {log : List AuthLog} (h : Sound cfg s log)
    (l : List AuthLog) (hl : ∀ i ip req resp, .tokensReturned i ip req (.ok resp) ∉ l)
    (hq : ∀ ip c, s'.challenges.getPriority ip = some c → Pushed (log ++ l) ip c)
    (hc : ∀ i, CallOk cfg (log ++ l) i (s'.calls i)) : Sound cfg s' (log ++ l) := by
  refine ⟨hq, hc, fun i ip req resp hm => ?_⟩
  rcases List.mem_append.mp hm with hm | hm
  · obtain ⟨ip', rfl, hmi⟩ := h.minted i ip req resp hm
    exact ⟨ip', rfl, hmi.mono l⟩
  · exact absurd hm (hl i ip req resp)

theorem setCall_calls (s : AuthService) (i : Nat) (c : Call) (j : Nat) :
    (s.setCall i c).calls j = if j = i then c else s.calls j := by
  by_cases h : j = i
  · subst h; simp [setCall]
  · simp [setCall, h, Function.update_noteq h]

theorem CallOk.setCall {s : AuthService} {log : List AuthLog} (h : ∀ j, CallOk cfg log j (s.calls j))
    {l : List AuthLog} {i : Nat} {c : Call} (hc : CallOk cfg (log ++ l) i c) (j : Nat) :
    CallOk cfg (log ++ l) j ((s.setCall i c).calls j) := by
  rw [setCall_calls]
  split
  · subst j; exact hc
  · exact (h j).mono l

theorem pair_sublist {log l : List AuthLog} {x y : AuthLog} (hx : x ∈ log) (hy : y ∈ l) :
    [x, y].Sublist (log ++ l) :=
  (List.singleton_sublist.mpr hx).append (List.singleton_sublist.mpr hy)

/-- **One step keeps the invariant.** -/
theorem Sound.step {s : AuthService} {log : List AuthLog} (h : Sound cfg s log) (e : AuthEvent) :
    Sound cfg (s.step cfg e).1 (log ++ (s.step cfg e).2) := by
  have stored : ∀ l ip c, s.challenges.getPriority ip = some c → Pushed (log ++ l) ip c :=
    fun l ip c hs => (h.stored ip c hs).mono l
  have calls : ∀ l i, CallOk cfg (log ++ l) i (s.calls i) := fun l i => (h.calls i).mono l
  have hs := step_shape cfg s e
  generalize s.step cfg e = r at hs ⊢
  cases hs with
  | challengeOpen | challengeReturned => exact h.extend _ (by simp) (stored _) (CallOk.setCall h.calls trivial)
  | challengeRejected | tokensRejected | refreshed => exact h.extend _ (by simp) (stored _) (calls _)
  | @challengeIssued i _ _ _ _ _ pk =>
    exact h.extend _ (by simp) (stored _) (CallOk.setCall h.calls ⟨pk, by simp, rfl, rfl, rfl, rfl⟩)
  | tokensOpen hg =>
    obtain ⟨-, hc, hck⟩ := tokensGet_ok cfg hg
    exact h.extend [] (by simp) (stored _) (CallOk.setCall h.calls ⟨stored _ _ _ hc, hck⟩)
  | @pushed i ip c hi =>
    obtain ⟨pk, ha, hb⟩ := hi ▸ h.calls i
    refine h.extend _ (by simp) (fun ip' c' hs => ?_) (CallOk.setCall h.calls trivial)
    rw [AuthChallenges.getPriority_push] at hs
    split at hs
    · cases hs
      subst ip'
      exact ⟨i, pk, pair_sublist ha (by simp), hb⟩
    · exact stored _ _ _ hs
  | @removed i ip req c resp hi =>
    obtain ⟨⟨m, pk, hs, hb⟩, pk', hpk, hck⟩ := hi ▸ h.calls i
    obtain rfl : pk = pk' := hb.2.1.symm.trans hck.1
    refine ⟨fun ip' c' hs' => ?_, CallOk.setCall h.calls trivial, fun j ip' req' resp' hm => ?_⟩
    · rw [AuthChallenges.getPriority_remove] at hs'
      split at hs'
      · cases hs'
      · exact stored _ _ _ hs'
    · rcases List.mem_append.mp hm with hm | hm
      · obtain ⟨ip'', rfl, hmi⟩ := h.minted j ip' req' resp' hm
        exact ⟨ip'', rfl, hmi.mono _⟩
      · simp only [List.mem_singleton, AuthLog.tokensReturned.injEq, Except.ok.injEq] at hm
        obtain ⟨rfl, rfl, rfl, rfl⟩ := hm
        exact ⟨ip, rfl, m, pk, c, hs.append (List.Sublist.refl _), hpk, hb, hck⟩
  | swept =>
    refine h.extend [] (by simp) (fun ip c hs => stored _ _ _ ?_) (calls _)
    simp only [AuthChallenges.lookup_removeAllExpired] at hs
    exact (Option.filter_eq_some.mp hs).1
  | frame hq hc =>
    exact h.extend [] (by simp) (fun ip c hs => stored _ _ _ (hq ▸ hs)) (fun i => hc ▸ calls _ i)

theorem Sound.run {s : AuthService} {log : List AuthLog} (h : Sound cfg s log) (evs : List AuthEvent) :
    Sound cfg (s.run cfg evs).1 (log ++ (s.run cfg evs).2) := by
  induction evs generalizing s log with
  | nil => simpa [AuthService.run] using h
  | cons e evs ih => simpa [AuthService.run, List.append_assoc] using ih (h.step e)

/-- **Authentication soundness.** When a `generate_auth_tokens` call from `ip` returns `Ok`,
an earlier `generate_auth_challenge` call from `ip` pushed a challenge `c` after
`is_authorized(pk)` returned `true`, where `pk` is the pubkey of the tokens request; the request
signed `"{pk}-{c.challenge}"` under `pk`, and both tokens sign the claims of `c`, which name `ip`
and `pk`. -/
theorem tokens_ok_sound (start : Int) (evs : List AuthEvent) {i : Nat} {ip : Option IpAddr}
    {req : GenerateAuthTokensRequest} {resp : GenerateAuthTokensResponse}
    (h : .tokensReturned i ip req (.ok resp) ∈ ((AuthService.init start).run cfg evs).2) :
    ∃ ip' m pk c access refresh, ip = some ip' ∧
      [.authorized m pk, .pushed m ip' c, .tokensReturned i ip req (.ok resp)].Sublist
        ((AuthService.init start).run cfg evs).2 ∧
      pk.bytes = req.clientPubkey ∧ req.challenge = cfg.crypto.toBase58 pk ++ "-" ++ c.challenge ∧
      cfg.crypto.verify pk req.challenge req.signedChallenge = true ∧
      c.accessClaims.clientIp = ip' ∧ c.accessClaims.clientPubkey = pk ∧
      c.refreshClaims.clientIp = ip' ∧ c.refreshClaims.clientPubkey = pk ∧
      cfg.crypto.signWithKey c.accessClaims = some access ∧
      cfg.crypto.signWithKey c.refreshClaims = some refresh ∧
      resp = tokensResponse c access refresh := by
  have hs := (@Sound.init cfg start).run evs
  rw [List.nil_append] at hs
  obtain ⟨ip', rfl, m, pk, c, hsub, hpk, ⟨h1, h2, h3, h4⟩, -, hch, hv, access, refresh, ha, hr, hresp⟩ :=
    hs.minted i ip req resp h
  exact ⟨ip', m, pk, c, access, refresh, rfl, hsub, hpk, hch, hv, h1, h2, h3, h4, ha, hr, hresp⟩

/-- A validator obtains a challenge and exchanges it: the tokens sign claims naming its IP. -/
theorem tokens_ok_sound_run :
    let cfg : AuthConfig := ⟨.UserDefined [⟨List.replicate 32 7, rfl⟩],
      ⟨fun _ => true, fun _ => true, fun _ _ _ => true, fun _ => "pk", fun _ => some "jwt", fun _ => none⟩,
      10, 20, 5⟩
    let ip : IpAddr := .V4 1
    let req : GenerateAuthTokensRequest := ⟨"pk-abcdefghi", List.replicate 32 7, List.replicate 64 0⟩
    let evs : List AuthEvent := [.healthWrite .Healthy, .challengeStart (some ip) ⟨2, List.replicate 32 7⟩,
      .challengeGet 0 ∅ "abcdefghi", .challengePush 0, .tokensStart (some ip) req, .tokensRemove 1]
    ∃ m pk c, [.authorized m pk, .pushed m ip c, .tokensReturned 1 (some ip) req
        (.ok (tokensResponse (newChallenge cfg 0 "abcdefghi" ip ⟨List.replicate 32 7, rfl⟩) "jwt" "jwt"))].Sublist
        ((AuthService.init 0).run cfg evs).2 ∧
      c.accessClaims.clientIp = ip ∧ c.refreshClaims.clientIp = ip := by
  intro cfg ip req evs
  obtain ⟨ip', m, pk, c, -, -, hip, hs, -, -, -, h1, -, h3, -⟩ :=
    @tokens_ok_sound cfg 0 evs 1 (some ip) req
      (tokensResponse (newChallenge cfg 0 "abcdefghi" ip ⟨List.replicate 32 7, rfl⟩) "jwt" "jwt") (by decide)
  cases hip
  exact ⟨m, pk, c, hs, h1, h3⟩

/-- `generate_auth_tokens` never reads the clock: a challenge that expired at `5` is exchanged
at `5`, before a sweep removes it. -/
theorem expired_challenge_exchanged :
    let cfg : AuthConfig := ⟨.UserDefined [⟨List.replicate 32 7, rfl⟩],
      ⟨fun _ => true, fun _ => true, fun _ _ _ => true, fun _ => "pk", fun _ => some "jwt", fun _ => none⟩,
      10, 20, 5⟩
    let ip : IpAddr := .V4 1
    let c := newChallenge cfg 0 "abcdefghi" ip ⟨List.replicate 32 7, rfl⟩
    let req : GenerateAuthTokensRequest := ⟨"pk-abcdefghi", List.replicate 32 7, List.replicate 64 0⟩
    let r := (AuthService.init 0).run cfg [.healthWrite .Healthy, .challengeStart (some ip) ⟨2, List.replicate 32 7⟩,
      .challengeGet 0 ∅ "abcdefghi", .challengePush 0, .advance 5, .tokensStart (some ip) req, .tokensRemove 1]
    .pushed 0 ip c ∈ r.2 ∧ .tokensReturned 1 (some ip) req (.ok (tokensResponse c "jwt" "jwt")) ∈ r.2 ∧
      c.expiresAtUtc ≤ r.1.now := by
  decide

end AuthService

end JitoRelayer
