import JitoRelayer.Auth.Service

/-!
# The life of a stored challenge

* `stored_challenge_leaves`: a stored challenge leaves the store only by a `push` of another
  challenge for its IP, by the `remove` of a `generate_auth_tokens` call from its IP, whatever
  challenge that call checked, or by a sweep after it expired.
* `challenge_reissued_and_exchanged_twice`: that, and two first-time `generate_auth_challenge` calls from one
  IP both miss the store, so the second `push` replaces the challenge the first returned, and a
  later call gets the second; two `generate_auth_tokens` calls that both pass `get_priority`
  exchange one challenge twice.
* `access_token_minted_expired`: the access claims' expiry is fixed when the challenge is
  issued, so with the default TTLs a challenge exchanged after its access expiry, before a sweep
  removes it, yields an access token that has already expired.
-/

namespace JitoRelayer

namespace AuthService

variable {cfg : AuthConfig}

/-- A stored challenge leaves the store only by a `push` for its IP, the `remove` of a tokens
call from its IP, or a sweep once expired. -/
theorem stored_challenge_leaves {s : AuthService} {e : AuthEvent} {ip : IpAddr} {c : AuthChallenge}
    (hin : s.challenges.getPriority ip = some c)
    (hout : (s.step cfg e).1.challenges.getPriority ip ≠ some c) :
    (∃ i c', e = .challengePush i ∧ s.calls i = .challengePush ip c' ∧ c' ≠ c) ∨
    (∃ i req c' resp, e = .tokensRemove i ∧ s.calls i = .tokensRemove ip req c' resp) ∨
    (e = .sweep ∧ c.isExpired s.now = true) := by
  have hs := step_shape cfg s e
  generalize s.step cfg e = r at hs hout
  cases hs with
  | @pushed i ip' c' hi =>
    rw [AuthChallenges.getPriority_push] at hout
    split at hout
    · subst ip
      exact .inl ⟨i, c', rfl, hi, fun h => hout (h ▸ rfl)⟩
    · exact absurd hin hout
  | @removed i ip' req c' resp hi =>
    rw [AuthChallenges.getPriority_remove] at hout
    split at hout
    · subst ip
      exact .inr (.inl ⟨i, req, c', resp, rfl, hi⟩)
    · exact absurd hin hout
  | swept =>
    simp only [AuthChallenges.lookup_removeAllExpired, hin, Option.filter_some] at hout
    split at hout
    · exact absurd rfl hout
    · rename_i hx
      exact .inr (.inr ⟨rfl, by simpa using hx⟩)
  | frame hq => exact absurd (hq ▸ hin) hout
  | _ => exact absurd hin hout

/-- **Check, then act.** In every step, a stored challenge leaves the store only by a `push`
of another challenge for its IP, by the `remove` of a tokens call from its IP, whatever challenge
that call checked, or by a sweep once expired. Both of the first two happen to a challenge that
is still valid: calls 0 and 1 from one IP both find no challenge and push `aaaaaaaaa` then
`bbbbbbbbb`; call 2, which starts after `aaaaaaaaa` was returned and with no time passing, gets
`bbbbbbbbb`. Calls 3 and 4 both read `bbbbbbbbb` before either removes it, and both return
tokens. -/
theorem challenge_reissued_and_exchanged_twice :
    (∀ (cfg : AuthConfig) (s : AuthService) (e : AuthEvent) (ip : IpAddr) (c : AuthChallenge),
      s.challenges.getPriority ip = some c → (s.step cfg e).1.challenges.getPriority ip ≠ some c →
      (∃ i c', e = .challengePush i ∧ s.calls i = .challengePush ip c' ∧ c' ≠ c) ∨
      (∃ i req c' resp, e = .tokensRemove i ∧ s.calls i = .tokensRemove ip req c' resp) ∨
      (e = .sweep ∧ c.isExpired s.now = true)) ∧
    (let cfg : AuthConfig := ⟨.UserDefined [⟨List.replicate 32 7, rfl⟩],
      ⟨fun _ => true, fun _ => true, fun _ _ _ => true, fun _ => "pk", fun _ => some "jwt", fun _ => none⟩,
      10, 20, 5⟩
    let ip : IpAddr := .V4 1
    let creq : GenerateAuthChallengeRequest := ⟨2, List.replicate 32 7⟩
    let treq : GenerateAuthTokensRequest := ⟨"pk-bbbbbbbbb", List.replicate 32 7, List.replicate 64 0⟩
    let resp := tokensResponse (newChallenge cfg 0 "bbbbbbbbb" ip ⟨List.replicate 32 7, rfl⟩) "jwt" "jwt"
    let r := (AuthService.init 0).run cfg [.healthWrite .Healthy, .challengeStart (some ip) creq,
      .challengeStart (some ip) creq, .challengeGet 0 ∅ "aaaaaaaaa", .challengeGet 1 ∅ "bbbbbbbbb",
      .challengePush 0]
    let post : List AuthEvent := [.challengePush 1, .challengeStart (some ip) creq,
      .challengeGet 2 ∅ "ccccccccc", .tokensStart (some ip) treq, .tokensStart (some ip) treq,
      .tokensRemove 3, .tokensRemove 4]
    .challengeReturned 0 (.ok "aaaaaaaaa") ∈ r.2 ∧ r.1.nextCall = 2 ∧
      .challengeReturned 2 (.ok "bbbbbbbbb") ∈ (r.1.run cfg post).2 ∧ (r.1.run cfg post).1.now = r.1.now ∧
      .tokensReturned 3 (some ip) treq (.ok resp) ∈ (r.1.run cfg post).2 ∧
      .tokensReturned 4 (some ip) treq (.ok resp) ∈ (r.1.run cfg post).2) :=
  ⟨fun _ _ _ _ _ hin hout => stored_challenge_leaves hin hout, by decide⟩

/-- With the default TTLs of `main` (access token and challenge 1800 s, refresh token
180000 s, in nanoseconds), a challenge issued at `0` and exchanged at 1801 s, before the next
sweep, yields tokens whose access claims expired at 1800 s. -/
theorem access_token_minted_expired :
    let cfg : AuthConfig := ⟨.UserDefined [⟨List.replicate 32 7, rfl⟩],
      ⟨fun _ => true, fun _ => true, fun _ _ _ => true, fun _ => "pk", fun _ => some "jwt", fun _ => none⟩,
      1800000000000, 180000000000000, 1800000000000⟩
    let ip : IpAddr := .V4 1
    let c := newChallenge cfg 0 "abcdefghi" ip ⟨List.replicate 32 7, rfl⟩
    let req : GenerateAuthTokensRequest := ⟨"pk-abcdefghi", List.replicate 32 7, List.replicate 64 0⟩
    let r := (AuthService.init 0).run cfg [.healthWrite .Healthy,
      .challengeStart (some ip) ⟨2, List.replicate 32 7⟩, .challengeGet 0 ∅ "abcdefghi",
      .challengePush 0, .advance 1801000000000, .tokensStart (some ip) req, .tokensRemove 1]
    .tokensReturned 1 (some ip) req (.ok (tokensResponse c "jwt" "jwt")) ∈ r.2 ∧
      cfg.crypto.signWithKey c.accessClaims = some "jwt" ∧ c.accessClaims.isExpired r.1.now = true := by
  decide

end AuthService

end JitoRelayer
