import JitoRelayer.Auth.Service

/-!
# Which calls write the challenge store

A step changes the store only when it is a sweep, or when a call that has passed all its checks
pushes its new challenge or removes the one it exchanged, and returns `Ok` in that same step.
Every call returns once at most. So a `generate_auth_challenge`, `generate_auth_tokens` or
`refresh_access_token` call that returns `Err`, and a `generate_auth_challenge` call that
returns a challenge it found in the store, push and remove nothing.

* `returns`: how many times a call returns in the log.
* `AuthService.Fresh`: the invariant of call ids. An id from `nextCall` on is unused, an open
  call has not returned, and no call returns twice. `Fresh.step` and `Fresh.run` show that
  every step keeps it, with one lemma per way a step moves the calls.
* `step_writes`: the steps that change the store.
* `store_written_only_by_successful_calls`: along a run from any store, health state and clock
  with no call open, a step that changes the store is a sweep or the successful last step of
  a call, and that call returns only there.
-/

namespace JitoRelayer

/-- The call that an entry of the log returns from. -/
def AuthLog.returnOf : AuthLog → Option Nat
  | .challengeReturned i _ => some i
  | .tokensReturned i _ _ _ => some i
  | _ => none

/-- How many times call `i` returns in `log`. -/
def returns (log : List AuthLog) (i : Nat) : Nat :=
  log.countP fun l => l.returnOf = some i

@[simp] theorem returns_nil (i : Nat) : returns [] i = 0 := rfl

@[simp] theorem returns_cons (x : AuthLog) (log : List AuthLog) (i : Nat) :
    returns (x :: log) i = (if x.returnOf = some i then 1 else 0) + returns log i := by
  simp only [returns, List.countP_cons, decide_eq_true_eq]
  omega

theorem returns_append (log l : List AuthLog) (i : Nat) :
    returns (log ++ l) i = returns log i + returns l i :=
  List.countP_append _ _ _

namespace AuthService

variable {cfg : AuthConfig}

/-- The invariant of call ids. -/
structure Fresh (calls : Nat → Call) (next : Nat) (log : List AuthLog) : Prop where
  unused : ∀ j, next ≤ j → calls j = .done ∧ returns log j = 0
  pending : ∀ j, calls j ≠ .done → returns log j = 0
  once : ∀ j, returns log j ≤ 1

theorem Fresh.init (next : Nat) : Fresh (fun _ => .done) next [] :=
  ⟨fun _ _ => ⟨rfl, rfl⟩, fun _ h => absurd rfl h, fun _ => Nat.zero_le 1⟩

section Moves

variable {calls : Nat → Call} {next : Nat} {log l : List AuthLog}

theorem Fresh.lt_next (h : Fresh calls next log) {i : Nat} (hi : calls i ≠ .done) : i < next :=
  Nat.lt_of_not_le fun hle => hi (h.unused i hle).1

/-- A step that moves no call and returns none. -/
theorem Fresh.silent (h : Fresh calls next log) (hl : ∀ j, returns l j = 0) :
    Fresh calls next (log ++ l) := by
  have same : ∀ j, returns (log ++ l) j = returns log j := fun j => by
    rw [returns_append, hl, Nat.add_zero]
  exact ⟨fun j hj => same j ▸ h.unused j hj, fun j hj => same j ▸ h.pending j hj,
    fun j => same j ▸ h.once j⟩

/-- A call arrives under the next id and stays open. -/
theorem Fresh.arrive (h : Fresh calls next log) (c : Call) (hl : ∀ j, returns l j = 0) :
    Fresh (Function.update calls next c) (next + 1) (log ++ l) := by
  have h' := h.silent hl
  refine ⟨fun j hj => ?_, fun j hj => ?_, h'.once⟩
  · rw [Function.update_noteq (by omega)]
    exact h'.unused j (by omega)
  · by_cases hjn : j = next
    · subst hjn
      exact (h'.unused j le_rfl).2
    · rw [Function.update_noteq hjn] at hj
      exact h'.pending j hj

/-- A call arrives under the next id and returns at once. -/
theorem Fresh.arriveReturn (h : Fresh calls next log)
    (hl : ∀ j, returns l j = if next = j then 1 else 0) : Fresh calls (next + 1) (log ++ l) := by
  refine ⟨fun j hj => ?_, fun j hj => ?_, fun j => ?_⟩ <;> rw [returns_append, hl]
  · rw [if_neg (by omega)]
    exact h.unused j (by omega)
  · rw [if_neg (h.lt_next hj).ne']
    exact h.pending j hj
  · split
    · subst j
      rw [(h.unused _ le_rfl).2]
    · exact h.once j

/-- An open call moves on without returning. -/
theorem Fresh.move (h : Fresh calls next log) {i : Nat} (hi : calls i ≠ .done) (c : Call)
    (hl : ∀ j, returns l j = 0) : Fresh (Function.update calls i c) next (log ++ l) := by
  have h' := h.silent hl
  refine ⟨fun j hj => ?_, fun j hj => ?_, h'.once⟩
  · rw [Function.update_noteq (by have := h.lt_next hi; omega)]
    exact h'.unused j hj
  · by_cases hji : j = i
    · subst hji
      exact h'.pending j hi
    · rw [Function.update_noteq hji] at hj
      exact h'.pending j hj

/-- An open call returns, and is done. -/
theorem Fresh.finish (h : Fresh calls next log) {i : Nat} (hi : calls i ≠ .done)
    (hl : ∀ j, returns l j = if i = j then 1 else 0) :
    Fresh (Function.update calls i .done) next (log ++ l) := by
  have hlt := h.lt_next hi
  refine ⟨fun j hj => ?_, fun j hj => ?_, fun j => ?_⟩
  · rw [Function.update_noteq (by omega), returns_append, hl, if_neg (by omega)]
    exact h.unused j hj
  · have hji : j ≠ i := fun e => hj (e ▸ Function.update_same _ _ _)
    rw [Function.update_noteq hji] at hj
    rw [returns_append, hl, if_neg (Ne.symm hji)]
    exact h.pending j hj
  · rw [returns_append, hl]
    split
    · subst j
      rw [h.pending _ hi]
    · exact h.once j

end Moves

/-- **One step keeps the invariant.** -/
theorem Fresh.step {s : AuthService} {log : List AuthLog} (h : Fresh s.calls s.nextCall log)
    (e : AuthEvent) :
    Fresh (s.step cfg e).1.calls (s.step cfg e).1.nextCall (log ++ (s.step cfg e).2) := by
  have hs := step_shape cfg s e
  generalize s.step cfg e = r at hs ⊢
  cases hs with
  | challengeOpen | tokensOpen => exact h.arrive _ fun _ => rfl
  | challengeRejected | tokensRejected => exact h.arriveReturn fun j => by simp [AuthLog.returnOf]
  | challengeReturned hi | pushed hi | removed hi =>
    exact h.finish (by rw [hi]; nofun) fun j => by simp [AuthLog.returnOf]
  | challengeIssued hi => exact h.move (by rw [hi]; nofun) _ fun _ => rfl
  | refreshed | swept => exact h.silent fun _ => rfl
  | frame _ hc hn =>
    rw [hc, hn]
    exact h.silent fun _ => rfl

theorem Fresh.run {s : AuthService} {log : List AuthLog} (h : Fresh s.calls s.nextCall log)
    (evs : List AuthEvent) :
    Fresh (s.run cfg evs).1.calls (s.run cfg evs).1.nextCall (log ++ (s.run cfg evs).2) := by
  induction evs generalizing s log with
  | nil => simpa [AuthService.run] using h
  | cons e evs ih => simpa [AuthService.run, List.append_assoc] using ih (h.step e)

/-- **The steps that write the store.** A step changes the challenge store only as a sweep, as
the `push` of a `generate_auth_challenge` that returns the challenge it pushed, or as the
`remove` of a `generate_auth_tokens` that returns its tokens. -/
theorem step_writes {s : AuthService} {e : AuthEvent}
    (hw : (s.step cfg e).1.challenges ≠ s.challenges) :
    e = .sweep ∨
      (∃ i ip c, e = .challengePush i ∧
        (s.step cfg e).2 = [.pushed i ip c, .challengeReturned i (.ok c.challenge)]) ∨
      ∃ i ip req resp, e = .tokensRemove i ∧
        (s.step cfg e).2 = [.tokensReturned i (some ip) req (.ok resp)] := by
  have hs := step_shape cfg s e
  generalize s.step cfg e = r at hs hw ⊢
  cases hs with
  | swept => exact .inl rfl
  | pushed => exact .inr (.inl ⟨_, _, _, rfl, rfl⟩)
  | removed => exact .inr (.inr ⟨_, _, _, _, rfl, rfl⟩)
  | frame hq => exact absurd hq hw
  | _ => exact absurd rfl hw

/-- **Only successful calls write the store.** Start from any store, health state, clock and
next call id, with no call open. In every run, a step that changes the challenge store is a
sweep, or the `push` of a `generate_auth_challenge` call that returns there the challenge it
pushed, or the `remove` of a `generate_auth_tokens` call that returns there its tokens; and that
call returns nowhere else in the run. So a call that returns `Err`, or a challenge it found in
the store, neither pushes nor removes. -/
theorem store_written_only_by_successful_calls (challenges : AuthChallenges)
    (healthState : HealthState) (now : Int) (nextCall : Nat) (pre : List AuthEvent)
    (e : AuthEvent) (post : List AuthEvent) :
    let s₀ : AuthService := ⟨challenges, healthState, now, fun _ => .done, nextCall⟩
    let s := (s₀.run cfg pre).1
    let log := (s₀.run cfg (pre ++ e :: post)).2
    (s.step cfg e).1.challenges ≠ s.challenges →
      e = .sweep ∨
        (∃ i ip c, e = .challengePush i ∧
          (s.step cfg e).2 = [.pushed i ip c, .challengeReturned i (.ok c.challenge)] ∧
          returns log i = 1) ∨
        ∃ i ip req resp, e = .tokensRemove i ∧
          (s.step cfg e).2 = [.tokensReturned i (some ip) req (.ok resp)] ∧ returns log i = 1 := by
  intro s₀ s log hw
  have hlog : log = (s₀.run cfg pre).2 ++ ((s.step cfg e).2 ++ ((s.step cfg e).1.run cfg post).2) :=
    by simp only [log, run_append, AuthService.run]
  have hfresh := @Fresh.run cfg s₀ [] (Fresh.init nextCall) (pre ++ e :: post)
  have exactlyOnce : ∀ i, 1 ≤ returns (s.step cfg e).2 i → returns log i = 1 := fun i hi => by
    have once : returns log i ≤ 1 := by simpa only [List.nil_append] using hfresh.once i
    rw [hlog, returns_append, returns_append] at once ⊢
    omega
  rcases step_writes hw with he | ⟨i, ip, c, he, hl⟩ | ⟨i, ip, req, resp, he, hl⟩
  · exact .inl he
  · exact .inr (.inl ⟨i, ip, c, he, hl, exactlyOnce i (by simp [hl, AuthLog.returnOf])⟩)
  · exact .inr (.inr ⟨i, ip, req, resp, he, hl, exactlyOnce i (by simp [hl, AuthLog.returnOf])⟩)

/-- A call that asks for a challenge as a non-validator role fails, and the push event named
after it then writes nothing; the next call issues a challenge, and its push is the one write. -/
theorem store_written_by_issuing_call :
    let cfg : AuthConfig := ⟨.UserDefined [⟨List.replicate 32 7, rfl⟩],
      ⟨fun _ => true, fun _ => true, fun _ _ _ => true, fun _ => "pk", fun _ => some "jwt", fun _ => none⟩,
      10, 20, 5⟩
    let s₀ : AuthService := ⟨∅, .Healthy, 0, fun _ => .done, 0⟩
    let pre : List AuthEvent := [.challengeStart (some (.V4 1)) ⟨1, List.replicate 32 7⟩,
      .challengeGet 0 ∅ "aaaaaaaaa", .challengePush 0,
      .challengeStart (some (.V4 1)) ⟨2, List.replicate 32 7⟩, .challengeGet 1 ∅ "bbbbbbbbb"]
    let s := (s₀.run cfg pre).1
    let log := (s₀.run cfg (pre ++ [.challengePush 1])).2
    (s.step cfg (.challengePush 1)).1.challenges ≠ s.challenges ∧
      (AuthEvent.challengePush 1 = .sweep ∨
        (∃ i ip c, AuthEvent.challengePush 1 = .challengePush i ∧
          (s.step cfg (.challengePush 1)).2 =
            [.pushed i ip c, .challengeReturned i (.ok c.challenge)] ∧ returns log i = 1) ∨
        ∃ i ip req resp, AuthEvent.challengePush 1 = .tokensRemove i ∧
          (s.step cfg (.challengePush 1)).2 = [.tokensReturned i (some ip) req (.ok resp)] ∧
          returns log i = 1) :=
  ⟨fun h => absurd (congrArg (AList.lookup (IpAddr.V4 1)) h) (by decide),
    store_written_only_by_successful_calls ∅ .Healthy 0 0 _ (.challengePush 1) []
      fun h => absurd (congrArg (AList.lookup (IpAddr.V4 1)) h) (by decide)⟩

end AuthService

end JitoRelayer
