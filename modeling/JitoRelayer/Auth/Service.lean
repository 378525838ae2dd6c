import JitoRelayer.Auth.Challenges
import JitoRelayer.Relayer.ScheduleCache

/-!
# The auth service (`relayer/src/auth_service.rs`)

`AuthServiceImpl` serves `generate_auth_challenge`, `generate_auth_tokens` and
`refresh_access_token` as concurrent tasks, and a background task sweeps expired challenges.
The tasks share the challenge store, whose every method takes its mutex once, and the
`HealthState` that the health manager writes. A call runs without interruption between two
acquisitions of the store's lock, so it is a sequence of atomic steps:

* `generate_auth_challenge`: `check_health` and `len()` (`challengeStart`); `client_ip`,
  `get_priority`, the request checks and `is_authorized` (`challengeGet`); `push`
  (`challengePush`).
* `generate_auth_tokens`: `check_health` to the two signed tokens, `get_priority` among them
  (`tokensStart`); `remove` (`tokensRemove`).
* `refresh_access_token` and a sweep are one step each.

The system is `AuthService` with `AuthService.step`; every step returns what it adds to the
`AuthLog`: each `is_authorized` that returned `true`, each `push`, and each call's result.
The clock (`Utc::now()`) is part of the state and moves by `advance`. `step_shape` says once
what a step can do (`StepShape`), and the invariants of the other modules follow from it.

Ed25519, base58 and the JWT signer are parameters (`Crypto`); the random challenge is an input
of the step that draws it.
-/

namespace JitoRelayer

/-- `AUTH_CHALLENGES_CAPACITY`. -/
def authChallengesCapacity : Nat := 100000

/-- `Role::Validator as i32` (`jito_protos::auth::Role`). -/
def roleValidator : Int := 2

/-- `GenerateAuthChallengeRequest`. -/
structure GenerateAuthChallengeRequest where
  role : Int
  pubkey : List UInt8
  deriving DecidableEq

/-- `GenerateAuthTokensRequest`. -/
structure GenerateAuthTokensRequest where
  challenge : String
  clientPubkey : List UInt8
  signedChallenge : List UInt8
  deriving DecidableEq

/-- `RefreshAccessTokenRequest`. -/
structure RefreshAccessTokenRequest where
  refreshToken : String
  deriving DecidableEq

/-- `prost_types::Timestamp`. -/
structure Timestamp where
  seconds : Int
  nanos : Int
  deriving DecidableEq

/-- `jito_protos::auth::Token`. -/
structure PbToken where
  value : String
  expiresAtUtc : Option Timestamp
  deriving DecidableEq

/-- `GenerateAuthTokensResponse`. -/
structure GenerateAuthTokensResponse where
  accessToken : Option PbToken
  refreshToken : Option PbToken
  deriving DecidableEq

/-- `RefreshAccessTokenResponse`. -/
structure RefreshAccessTokenResponse where
  accessToken : Option PbToken
  deriving DecidableEq

/-- The `ValidatorStore` of `ValidatorAutherImpl` (`transaction-relayer/src/main.rs`). -/
inductive ValidatorStore
  | LeaderSchedule
  | UserDefined (pubkeys : List Pubkey)

/-- `ValidatorAutherImpl::is_authorized`, on the leader schedule the cache holds. -/
def ValidatorStore.isAuthorized (store : ValidatorStore) (schedule : JitoRelayer.LeaderSchedule)
    (pubkey : Pubkey) : Bool :=
  match store with
  | .LeaderSchedule => schedule.isScheduledValidator pubkey
  | .UserDefined pubkeys => pubkeys.contains pubkey

/-- What the service takes from `ed25519_dalek`, `Pubkey`'s `Display` and `jwt`. -/
structure Crypto where
  /-- `PublicKey::from_bytes` accepts 32 bytes that encode a curve point. -/
  isCurvePoint : List UInt8 → Bool
  /-- `Signature::from_bytes` accepts these 64 bytes. -/
  isSignature : List UInt8 → Bool
  /-- `PublicKey::verify` of a signature over the bytes of a message. -/
  verify : Pubkey → String → List UInt8 → Bool
  /-- `Display` of a `Pubkey`: base58. -/
  toBase58 : Pubkey → String
  /-- `Token::new(header, claims).sign_with_key(&signing_key)`. -/
  signWithKey : Claims → Option String
  /-- `verify_with_key(&verifying_key)` of a token: its claims, when the signature verifies. -/
  verifyWithKey : String → Option Claims

/-- The fields of `AuthServiceImpl` the calls read, durations in nanoseconds. -/
structure AuthConfig where
  validatorStore : ValidatorStore
  crypto : Crypto
  accessTokenTtl : Nat
  refreshTokenTtl : Nat
  challengeTtl : Nat

/-- Modelled from the spec: `Claims::is_expired`, whose file is not in the sources; a token is
valid while its `expires_at_utc` is in the future, and rejected once `expires_at_utc ≤ now`. -/
def Claims.isExpired (c : Claims) (now : Int) : Bool :=
  decide (c.expiresAtUtc ≤ now)

/-- `expires_at.and_utc().timestamp()`: whole seconds. -/
def toTimestamp (t : Int) : Timestamp := ⟨t / 1000000000, 0⟩

/-! ## The segments of the calls -/

section Segments

variable (cfg : AuthConfig)

/-- `check_health`. -/
def checkHealth (h : HealthState) : Except Status Unit :=
  if h ≠ .Healthy then .error (.internal "relayer is unhealthy") else .ok ()

/-- `client_ip`. -/
def clientIp (ip : Option IpAddr) : Except Status IpAddr :=
  match ip with
  | some ip => .ok ip
  | none => .error (.internal "request is missing IP address")

/-- `generate_auth_challenge` up to its `len()`. -/
def challengeLenCheck (h : HealthState) (len : Nat) : Except Status Unit :=
  match checkHealth h with
  | .error e => .error e
  | .ok () =>
    if len ≥ authChallengesCapacity then .error (.resourceExhausted "System overloaded.")
    else .ok ()

/-- The checks of `generate_auth_challenge` on a request. -/
def challengeRequestCheck (schedule : LeaderSchedule) (req : GenerateAuthChallengeRequest) :
    Except Status Pubkey :=
  if req.role ≠ roleValidator then .error (.invalidArgument "Role must be validator.")
  else if req.pubkey.length ≠ pubkeyBytes then
    .error (.invalidArgument "Pubkey must be 32 bytes in length")
  else
    match Pubkey.tryFrom req.pubkey with
    | none => .error (.invalidArgument "Invalid pubkey supplied.")
    | some pk =>
      if !cfg.validatorStore.isAuthorized schedule pk then
        .error (.permissionDenied "The supplied pubkey is not authorized to generate a challenge.")
      else .ok pk

/-- `generate_auth_challenge` from `client_ip` to its `push`: the stored challenge of the IP
when it has not expired (`inl`), or the IP and the pubkey of a challenge to issue (`inr`). -/
def challengeGet (schedule : LeaderSchedule) (now : Int) (q : AuthChallenges)
    (ip : Option IpAddr) (req : GenerateAuthChallengeRequest) :
    Except Status (String ⊕ (IpAddr × Pubkey)) :=
  match clientIp ip with
  | .error e => .error e
  | .ok ip =>
    match q.getPriority ip with
    | some c =>
      if !c.isExpired now then .ok (.inl c.challenge)
      else
        match challengeRequestCheck cfg schedule req with
        | .error e => .error e
        | .ok pk => .ok (.inr (ip, pk))
    | none =>
      match challengeRequestCheck cfg schedule req with
      | .error e => .error e
      | .ok pk => .ok (.inr (ip, pk))

/-- The `AuthChallenge` that `generate_auth_challenge` pushes. -/
def newChallenge (now : Int) (token : String) (ip : IpAddr) (pk : Pubkey) : AuthChallenge :=
  ⟨token, ⟨ip, pk, now + cfg.accessTokenTtl⟩, ⟨ip, pk, now + cfg.refreshTokenTtl⟩,
    now + cfg.challengeTtl⟩

/-- The two tokens minted from a challenge. -/
def tokensResponse (c : AuthChallenge) (access refresh : String) : GenerateAuthTokensResponse :=
  ⟨some ⟨access, some (toTimestamp c.accessClaims.expiresAtUtc)⟩,
    some ⟨refresh, some (toTimestamp c.refreshClaims.expiresAtUtc)⟩⟩

/-- The checks of `generate_auth_tokens` on the stored challenge and the two signatures. -/
def tokensCheck (pk : Pubkey) (c : AuthChallenge) (req : GenerateAuthTokensRequest) :
    Except Status GenerateAuthTokensResponse :=
  if c.accessClaims.clientPubkey ≠ pk then
    .error (.permissionDenied
      "The pubkey provided does not match the pubkey that generated the challenge.")
  else
    let expectedChallenge := cfg.crypto.toBase58 pk ++ "-" ++ c.challenge
    if expectedChallenge ≠ req.challenge then
      .error (.invalidArgument
        ("The provided challenge does not match the expected challenge: " ++ expectedChallenge))
    else if req.signedChallenge.length ≠ signatureBytes then
      .error (.invalidArgument "Signature must be 64 bytes.")
    else if !cfg.crypto.isSignature req.signedChallenge then
      .error (.invalidArgument "Invalid signature.")
    else if !cfg.crypto.verify pk req.challenge req.signedChallenge then
      .error (.invalidArgument
        "Failed challenge verification. Did you sign with the supplied pubkey's corresponding private key?")
    else
      match cfg.crypto.signWithKey c.accessClaims with
      | none => .error (.internal "Error signing access_token.")
      | some access =>
        match cfg.crypto.signWithKey c.refreshClaims with
        | none => .error (.internal "Error signing refresh_token.")
        | some refresh => .ok (tokensResponse c access refresh)

/-- `PublicKey::from_bytes` and `Pubkey::try_from(client_pubkey.to_bytes())`. -/
def clientPubkey (bytes : List UInt8) : Except Status Pubkey :=
  if bytes.length = pubkeyBytes ∧ cfg.crypto.isCurvePoint bytes then
    match Pubkey.tryFrom bytes with
    | some pk => .ok pk
    | none => .error (.invalidArgument "Invalid pubkey supplied.")
  else .error (.invalidArgument "Invalid pubkey supplied.")

/-- `generate_auth_tokens` up to its `remove`: the IP, the challenge it read and the response. -/
def tokensGet (h : HealthState) (q : AuthChallenges) (ip : Option IpAddr)
    (req : GenerateAuthTokensRequest) :
    Except Status (IpAddr × AuthChallenge × GenerateAuthTokensResponse) :=
  match checkHealth h, clientIp ip, clientPubkey cfg req.clientPubkey with
  | .error e, _, _ | .ok (), .error e, _ | .ok (), .ok _, .error e => .error e
  | .ok (), .ok ip, .ok pk =>
    match q.getPriority ip with
    | none => .error (.permissionDenied
        "Must invoke the GenerateAuthChallenge method before calling any method.")
    | some c =>
      match tokensCheck cfg pk c req with
      | .error e => .error e
      | .ok resp => .ok (ip, c, resp)

/-- `refresh_access_token`. -/
def refreshAccessToken (h : HealthState) (now : Int) (req : RefreshAccessTokenRequest) :
    Except Status RefreshAccessTokenResponse :=
  match checkHealth h with
  | .error e => .error e
  | .ok () =>
    match cfg.crypto.verifyWithKey req.refreshToken with
    | none => .error (.permissionDenied "Invalid refresh_token supplied")
    | some claims =>
      if claims.isExpired now then
        .error (.permissionDenied
          "Client refresh_token has expired, please generate a new auth challenge to obtain a set of new access tokens.")
      else
        let expiresAtUtc := now + cfg.accessTokenTtl
        match cfg.crypto.signWithKey ⟨claims.clientIp, claims.clientPubkey, expiresAtUtc⟩ with
        | none => .error (.internal "Error signing access_token.")
        | some access => .ok ⟨some ⟨access, some (toTimestamp expiresAtUtc)⟩⟩

/-! ### What a segment that succeeds has checked -/

theorem clientIp_ok {ip : Option IpAddr} {ip' : IpAddr} (h : clientIp ip = .ok ip') : ip = some ip' := by
  unfold clientIp at h
  split at h
  · cases h; rfl
  · cases h

theorem clientPubkey_ok {bytes : List UInt8} {pk : Pubkey} (h : clientPubkey cfg bytes = .ok pk) :
    pk.bytes = bytes := by
  unfold clientPubkey at h
  split at h
  · split at h
    · cases h; exact Pubkey.tryFrom_eq_some ‹_›
    · cases h
  · cases h

/-- The checks of `generate_auth_tokens` that passed, and the two tokens it signed. -/
def TokensChecked (pk : Pubkey) (c : AuthChallenge) (req : GenerateAuthTokensRequest)
    (resp : GenerateAuthTokensResponse) : Prop :=
  c.accessClaims.clientPubkey = pk ∧ req.challenge = cfg.crypto.toBase58 pk ++ "-" ++ c.challenge ∧
    cfg.crypto.verify pk req.challenge req.signedChallenge = true ∧
    ∃ access refresh, cfg.crypto.signWithKey c.accessClaims = some access ∧
      cfg.crypto.signWithKey c.refreshClaims = some refresh ∧ resp = tokensResponse c access refresh

theorem tokensCheck_ok {pk : Pubkey} {c : AuthChallenge} {req : GenerateAuthTokensRequest}
    {resp : GenerateAuthTokensResponse} (h : tokensCheck cfg pk c req = .ok resp) :
    TokensChecked cfg pk c req resp := by
  unfold tokensCheck at h
  have h1 : c.accessClaims.clientPubkey = pk := by by_contra h1; simp [h1] at h
  have h2 : cfg.crypto.toBase58 pk ++ "-" ++ c.challenge = req.challenge := by
    by_contra h2; simp [h1, h2] at h
  have h3 : req.signedChallenge.length = signatureBytes := by by_contra h3; simp [h1, h2, h3] at h
  have h4 : cfg.crypto.isSignature req.signedChallenge = true := by
    by_contra h4; simp [h1, h2, h3, h4] at h
  have h5 : cfg.crypto.verify pk req.challenge req.signedChallenge = true := by
    by_contra h5; simp [h1, h2, h3, h4, h5] at h
  cases ha : cfg.crypto.signWithKey c.accessClaims with
  | none => simp [h1, h2, h3, h4, h5, ha] at h
  | some access =>
    cases hr : cfg.crypto.signWithKey c.refreshClaims with
    | none => simp [h1, h2, h3, h4, h5, ha, hr] at h
    | some refresh =>
      simp [h1, h2, h3, h4, h5, ha, hr] at h
      exact ⟨h1, h2.symm, h5, access, refresh, ha, hr, h.symm⟩

/-- A `generate_auth_tokens` that reaches its `remove` read challenge `c` for the caller's IP,
from the pubkey of the request, and checked it. -/
theorem tokensGet_ok {h : HealthState} {q : AuthChallenges} {ip : Option IpAddr}
    {req : GenerateAuthTokensRequest} {ip' : IpAddr} {c : AuthChallenge}
    {resp : GenerateAuthTokensResponse} (hg : tokensGet cfg h q ip req = .ok (ip', c, resp)) :
    ip = some ip' ∧ q.getPriority ip' = some c ∧
      ∃ pk, pk.bytes = req.clientPubkey ∧ TokensChecked cfg pk c req resp := by
  unfold tokensGet at hg
  split at hg
  · cases hg
  · cases hg
  · cases hg
  · rename_i ip₀ pk _ hip hpk
    split at hg
    · cases hg
    · rename_i c₀ hc
      split at hg
      · cases hg
      · rename_i resp₀ hr
        cases hg
        exact ⟨clientIp_ok hip, hc, pk, clientPubkey_ok cfg hpk, tokensCheck_ok cfg hr⟩

end Segments

/-! ## The system -/

/-- Where a call is between two acquisitions of the store's lock. -/
inductive Call
  /-- `generate_auth_challenge` past its `len()`. -/
  | challengeLen (ip : Option IpAddr) (req : GenerateAuthChallengeRequest)
  /-- `generate_auth_challenge` before its `push`. -/
  | challengePush (ip : IpAddr) (c : AuthChallenge)
  /-- `generate_auth_tokens` past its checks, before its `remove`. -/
  | tokensRemove (ip : IpAddr) (req : GenerateAuthTokensRequest) (c : AuthChallenge)
      (resp : GenerateAuthTokensResponse)
  /-- Returned, or not started. -/
  | done

/-- What the service does that the claims about it read. -/
inductive AuthLog
  /-- `is_authorized(pk)` returned `true` in call `call`. -/
  | authorized (call : Nat) (pk : Pubkey)
  /-- Call `call` pushed `c` for `ip`. -/
  | pushed (call : Nat) (ip : IpAddr) (c : AuthChallenge)
  | challengeReturned (call : Nat) (result : Except Status String)
  | tokensReturned (call : Nat) (ip : Option IpAddr) (req : GenerateAuthTokensRequest)
      (result : Except Status GenerateAuthTokensResponse)
  | refreshReturned (req : RefreshAccessTokenRequest) (result : Except Status RefreshAccessTokenResponse)
  deriving DecidableEq

/-- The service's shared state and its calls. -/
structure AuthService where
  challenges : AuthChallenges
  healthState : HealthState
  /-- `Utc::now()`. -/
  now : Int
  calls : Nat → Call
  /-- The id of the next call. -/
  nextCall : Nat

/-- `AuthServiceImpl::new` at time `start`, with the health manager's initial `Unhealthy`. -/
def AuthService.init (start : Int) : AuthService :=
  ⟨∅, .Unhealthy, start, fun _ => .done, 0⟩

/-- One atomic step. -/
inductive AuthEvent
  /-- A `generate_auth_challenge` call arrives and runs up to its `len()`. -/
  | challengeStart (ip : Option IpAddr) (req : GenerateAuthChallengeRequest)
  /-- Call `i` runs from `client_ip` up to its `push`, drawing `token`; `is_authorized` reads
  `schedule`. -/
  | challengeGet (i : Nat) (schedule : LeaderSchedule) (token : String)
  /-- Call `i` pushes. -/
  | challengePush (i : Nat)
  /-- A `generate_auth_tokens` call arrives and runs up to its `remove`. -/
  | tokensStart (ip : Option IpAddr) (req : GenerateAuthTokensRequest)
  /-- Call `i` removes. -/
  | tokensRemove (i : Nat)
  | refresh (req : RefreshAccessTokenRequest)
  /-- The expiration task runs `remove_all_expired`. -/
  | sweep
  /-- Time passes. -/
  | advance (d : Nat)
  /-- The health manager writes the shared state. -/
  | healthWrite (h : HealthState)

namespace AuthService

variable (cfg : AuthConfig)

/-- Call `i` moves to `c`. -/
def setCall (s : AuthService) (i : Nat) (c : Call) : AuthService :=
  { s with calls := Function.update s.calls i c }

/-- One step, and what it adds to the log. A call that is not where the step needs it does
not move. -/
def step (s : AuthService) : AuthEvent → AuthService × List AuthLog
  | .challengeStart ip req =>
    let n := s.nextCall
    match challengeLenCheck s.healthState s.challenges.len with
    | .ok () => ({ s.setCall n (.challengeLen ip req) with nextCall := n + 1 }, [])
    | .error e => ({ s with nextCall := n + 1 }, [.challengeReturned n (.error e)])
  | .challengeGet i schedule token =>
    match s.calls i with
    | .challengeLen ip req =>
      match challengeGet cfg schedule s.now s.challenges ip req with
      | .error e => (s.setCall i .done, [.challengeReturned i (.error e)])
      | .ok (.inl ch) => (s.setCall i .done, [.challengeReturned i (.ok ch)])
      | .ok (.inr (ip, pk)) =>
        (s.setCall i (.challengePush ip (newChallenge cfg s.now token ip pk)), [.authorized i pk])
    | _ => (s, [])
  | .challengePush i =>
    match s.calls i with
    | .challengePush ip c =>
      ({ s.setCall i .done with challenges := s.challenges.push ip c },
        [.pushed i ip c, .challengeReturned i (.ok c.challenge)])
    | _ => (s, [])
  | .tokensStart ip req =>
    let n := s.nextCall
    match tokensGet cfg s.healthState s.challenges ip req with
    | .ok (ip, c, resp) => ({ s.setCall n (.tokensRemove ip req c resp) with nextCall := n + 1 }, [])
    | .error e => ({ s with nextCall := n + 1 }, [.tokensReturned n ip req (.error e)])
  | .tokensRemove i =>
    match s.calls i with
    | .tokensRemove ip req _ resp =>
      ({ s.setCall i .done with challenges := s.challenges.remove ip },
        [.tokensReturned i (some ip) req (.ok resp)])
    | _ => (s, [])
  | .refresh req => (s, [.refreshReturned req (refreshAccessToken cfg s.healthState s.now req)])
  | .sweep => ({ s with challenges := s.challenges.removeAllExpired s.now }, [])
  | .advance d => ({ s with now := s.now + d }, [])
  | .healthWrite h => ({ s with healthState := h }, [])

/-- A run, and its log in order. -/
def run (s : AuthService) : List AuthEvent → AuthService × List AuthLog
  | [] => (s, [])
  | e :: es =>
    let p := s.step cfg e
    let q := run p.1 es
    (q.1, p.2 ++ q.2)

/-- What one step can do, with the checks it passed: a call arrives and stays open, or is
rejected at once; an open call moves on, or returns, pushing or removing at its last step; a
refresh answers; a sweep runs; or the step leaves the store and the calls as they are. -/
inductive StepShape (s : AuthService) : AuthEvent → AuthService × List AuthLog → Prop
  | challengeOpen {ip req} (h : challengeLenCheck s.healthState s.challenges.len = .ok ()) :
      StepShape s (.challengeStart ip req)
        ({ s.setCall s.nextCall (.challengeLen ip req) with nextCall := s.nextCall + 1 }, [])
  | tokensOpen {ip req ip' c resp}
      (h : tokensGet cfg s.healthState s.challenges ip req = .ok (ip', c, resp)) :
      StepShape s (.tokensStart ip req)
        ({ s.setCall s.nextCall (.tokensRemove ip' req c resp) with nextCall := s.nextCall + 1 }, [])
  | challengeRejected {ip req err} :
      StepShape s (.challengeStart ip req)
        ({ s with nextCall := s.nextCall + 1 }, [.challengeReturned s.nextCall (.error err)])
  | tokensRejected {ip req err} :
      StepShape s (.tokensStart ip req)
        ({ s with nextCall := s.nextCall + 1 }, [.tokensReturned s.nextCall ip req (.error err)])
  | challengeReturned {i schedule token ip req r} (hi : s.calls i = .challengeLen ip req) :
      StepShape s (.challengeGet i schedule token) (s.setCall i .done, [.challengeReturned i r])
  | challengeIssued {i schedule token ip req ip' pk} (hi : s.calls i = .challengeLen ip req)
      (h : challengeGet cfg schedule s.now s.challenges ip req = .ok (.inr (ip', pk))) :
      StepShape s (.challengeGet i schedule token)
        (s.setCall i (.challengePush ip' (newChallenge cfg s.now token ip' pk)), [.authorized i pk])
  | pushed {i ip c} (hi : s.calls i = .challengePush ip c) :
      StepShape s (.challengePush i) ({ s.setCall i .done with challenges := s.challenges.push ip c },
        [.pushed i ip c, .challengeReturned i (.ok c.challenge)])
  | removed {i ip req c resp} (hi : s.calls i = .tokensRemove ip req c resp) :
      StepShape s (.tokensRemove i) ({ s.setCall i .done with challenges := s.challenges.remove ip },
        [.tokensReturned i (some ip) req (.ok resp)])
  | refreshed {req r} : StepShape s (.refresh req) (s, [.refreshReturned req r])
  | swept : StepShape s .sweep ({ s with challenges := s.challenges.removeAllExpired s.now }, [])
  | frame {e s'} (hq : s'.challenges = s.challenges) (hc : s'.calls = s.calls)
      (hn : s'.nextCall = s.nextCall) : StepShape s e (s', [])

/-- **Every step has one of the shapes.** -/
theorem step_shape (s : AuthService) (e : AuthEvent) : StepShape cfg s e (s.step cfg e) := by
  cases e with
  | challengeStart => simp only [step]; split; exacts [.challengeOpen ‹_›, .challengeRejected]
  | challengeGet i =>
    simp only [step]
    split
    · rename_i hi
      split; exacts [.challengeReturned hi, .challengeReturned hi, .challengeIssued hi ‹_›]
    · exact .frame rfl rfl rfl
  | challengePush => simp only [step]; split; exacts [.pushed ‹_›, .frame rfl rfl rfl]
  | tokensStart => simp only [step]; split; exacts [.tokensOpen ‹_›, .tokensRejected]
  | tokensRemove => simp only [step]; split; exacts [.removed ‹_›, .frame rfl rfl rfl]
  | refresh req => exact .refreshed
  | sweep => exact .swept
  | advance d | healthWrite h => exact .frame rfl rfl rfl

@[simp] theorem setCall_calls_self (s : AuthService) (i : Nat) (c : Call) :
    (s.setCall i c).calls i = c := by
  simp [setCall]

theorem setCall_calls_of_ne (s : AuthService) {i j : Nat} (c : Call) (h : j ≠ i) :
    (s.setCall i c).calls j = s.calls j := by
  simp [setCall, Function.update_noteq h]

/-- A `generate_auth_challenge` that arrives while the service is healthy and the store below
its capacity passes its `len()` check. -/
theorem step_challengeStart_of_lt {s : AuthService} (hh : s.healthState = .Healthy)
    (hl : s.challenges.len < authChallengesCapacity) (ip : Option IpAddr)
    (req : GenerateAuthChallengeRequest) :
    s.step cfg (.challengeStart ip req) =
      ({ s.setCall s.nextCall (.challengeLen ip req) with nextCall := s.nextCall + 1 }, []) := by
  have : challengeLenCheck s.healthState s.challenges.len = .ok () := by
    simp only [challengeLenCheck, checkHealth, hh, ne_eq, not_true_eq_false, if_false]
    rw [if_neg (by omega)]
  simp only [step, this]

/-- A call that finds no challenge for its IP and whose request passes issues a challenge. -/
theorem step_challengeGet_issue {s : AuthService} {i : Nat} {ip : IpAddr}
    {req : GenerateAuthChallengeRequest} {schedule : LeaderSchedule} {pk : Pubkey} (token : String)
    (hc : s.calls i = .challengeLen (some ip) req) (hq : s.challenges.getPriority ip = none)
    (hreq : challengeRequestCheck cfg schedule req = .ok pk) :
    s.step cfg (.challengeGet i schedule token) =
      (s.setCall i (.challengePush ip (newChallenge cfg s.now token ip pk)), [.authorized i pk]) := by
  simp only [step, hc, challengeGet, clientIp, hq, hreq]

theorem step_challengePush {s : AuthService} {i : Nat} {ip : IpAddr} {c : AuthChallenge}
    (hc : s.calls i = .challengePush ip c) :
    s.step cfg (.challengePush i) =
      ({ s.setCall i .done with challenges := s.challenges.push ip c },
        [.pushed i ip c, .challengeReturned i (.ok c.challenge)]) := by
  simp only [step, hc]

theorem run_cons_fst (s : AuthService) (e : AuthEvent) (es : List AuthEvent) :
    (s.run cfg (e :: es)).1 = ((s.step cfg e).1.run cfg es).1 :=
  rfl

theorem run_append (s : AuthService) (xs ys : List AuthEvent) :
    s.run cfg (xs ++ ys) =
      ((s.run cfg xs).1.run cfg ys |>.1, (s.run cfg xs).2 ++ ((s.run cfg xs).1.run cfg ys).2) := by
  induction xs generalizing s with
  | nil => rfl
  | cons x xs ih => simp [run, ih]

theorem run_snoc (s : AuthService) (xs : List AuthEvent) (e : AuthEvent) :
    s.run cfg (xs ++ [e]) =
      (((s.run cfg xs).1.step cfg e).1, (s.run cfg xs).2 ++ ((s.run cfg xs).1.step cfg e).2) := by
  simp [run_append, run]

end AuthService

end JitoRelayer
