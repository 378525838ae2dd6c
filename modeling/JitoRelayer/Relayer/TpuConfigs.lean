import JitoRelayer.Basic

/-!
# The TPU-config RPC (`relayer/src/relayer.rs`, `transaction-relayer/src/main.rs`)

`get_sockets` binds one QUIC socket per TPU server, on consecutive ports from `tpu_quic_port`,
and one per forward server, from `tpu_quic_fwd_port`; `main` hands the ports of the bound
sockets to `RelayerImpl`. `get_tpu_configs` answers the call that draws `seq` from its counter
with the `seq mod n`-th port of each list, minus `6`.

Ports and server counts are the `u16`s of `Args`. Which ports the host lets
`multi_bind_in_range` bind is an input of the model.

* `getSockets`: the checks of `get_sockets`, with their panic messages, and the two port lists.
* `getTpuConfigs`: the two ports one call answers.
* `getTpuConfigs_of_getSockets`: with a server of each kind and both start ports at least `6`,
  every call answers the round-robin ports, without wrapping.
* `tpu_configs_panic_or_wrap`: that, and `get_sockets` accepts zero TPU servers, and then every
  call panics on a remainder by zero; it accepts a start port below `6`, and then the port a
  call answers has wrapped around.
-/

namespace JitoRelayer

/-- The fields of `Args` that `get_sockets` reads. -/
structure SocketArgs where
  tpuQuicPort : UInt16
  numTpuQuicServers : UInt16
  tpuQuicFwdPort : UInt16
  numTpuFwdQuicServers : UInt16
  deriving DecidableEq

/-- `u16::checked_add`. -/
def checkedAdd (a b : UInt16) : Option UInt16 :=
  if a.toNat + b.toNat < UInt16.size then some (a + b) else none

/-- `(0..num).map(|i| start + i)`: the ports of the sockets bound from `start`. -/
def portRange (start num : UInt16) : List UInt16 :=
  (List.range num.toNat).map fun i => start + UInt16.ofNat i

/-- `get_sockets`: the ports of the TPU and of the TPU-forward sockets, or the panic of the
check that fails. `bindable p` says whether `multi_bind_in_range` binds port `p`; its result is
unwrapped. The `assert_eq!`s that the bound ports are the requested ones then hold. -/
def getSockets (bindable : UInt16 → Bool) (args : SocketArgs) :
    Except String (List UInt16 × List UInt16) :=
  if ¬args.numTpuQuicServers < 65535 then
    .error "assertion failed: args.num_tpu_quic_servers < u16::MAX"
  else if ¬args.numTpuFwdQuicServers < 65535 then
    .error "assertion failed: args.num_tpu_fwd_quic_servers < u16::MAX"
  else
    match checkedAdd args.tpuQuicPort args.numTpuQuicServers,
        checkedAdd args.tpuQuicFwdPort args.numTpuFwdQuicServers with
    | some _, some fwdEnd =>
      let tpuPorts := portRange args.tpuQuicPort args.numTpuQuicServers
      let fwdPorts := portRange args.tpuQuicFwdPort args.numTpuFwdQuicServers
      if tpuPorts.any fun p => decide (args.tpuQuicFwdPort ≤ p ∧ p < fwdEnd) then
        .error "assertion failed: !tpu_fwd_ports.contains(&tpu_port)"
      else if (tpuPorts ++ fwdPorts).all bindable then .ok (tpuPorts, fwdPorts)
      else .error "called `Result::unwrap()` on an `Err` value"
    | _, _ => .error "called `Option::unwrap()` on a `None` value"

/-- `ports[seq as usize % ports.len()]`: a remainder by the length, which panics when the list
is empty, and then an index that is in bounds. -/
def roundRobin (ports : List UInt16) (seq : UInt64) : Except String UInt16 :=
  if h : ports.length = 0 then .error "attempt to calculate the remainder with a divisor of zero"
  else .ok (ports.get ⟨seq.toNat % ports.length, Nat.mod_lt _ (Nat.pos_of_ne_zero h)⟩)

/-- `RelayerImpl::get_tpu_configs`, for the call that drew `seq` from `self.seq` (the `k`-th
call draws `k`): the TPU and the TPU-forward port it answers, `as i64`. `- 6` is the `u16`
subtraction of a release build, which wraps. -/
def getTpuConfigs (tpuQuicPorts tpuFwdQuicPorts : List UInt16) (seq : UInt64) :
    Except String (Nat × Nat) := do
  let tpu ← roundRobin tpuQuicPorts seq
  let tpuForward ← roundRobin tpuFwdQuicPorts seq
  return ((tpu - 6).toNat, (tpuForward - 6).toNat)

theorem toNat_add_ofNat {a : UInt16} {i : Nat} (h : a.toNat + i < UInt16.size) :
    (a + UInt16.ofNat i).toNat = a.toNat + i := by
  have hsize : UInt16.size = 2 ^ 16 := rfl
  simp only [UInt16.toNat, UInt16.add_def, UInt16.ofNat, BitVec.toNat_add, BitVec.toNat_ofNat]
  rw [Nat.mod_eq_of_lt (by omega : i < 2 ^ 16)]
  exact Nat.mod_eq_of_lt h

@[simp]
theorem length_portRange (start num : UInt16) : (portRange start num).length = num.toNat := by
  simp [portRange]

theorem getElem_portRange {start num : UInt16} {i : Nat} (hi : i < (portRange start num).length) :
    (portRange start num)[i] = start + UInt16.ofNat i := by
  simp [portRange]

/-- A port of a range that does not pass `u16::MAX` is its start plus its index. -/
theorem roundRobin_portRange {start num : UInt16} (hend : start.toNat + num.toNat < UInt16.size)
    (hnum : 0 < num.toNat) (seq : UInt64) :
    ∃ p, roundRobin (portRange start num) seq = .ok p ∧
      p.toNat = start.toNat + seq.toNat % num.toNat := by
  have hmod := Nat.mod_lt seq.toNat hnum
  refine ⟨_, dif_neg (by simp only [length_portRange]; omega), ?_⟩
  simp only [List.get_eq_getElem, getElem_portRange, length_portRange]
  apply toNat_add_ofNat
  omega

/-- What `get_sockets` hands on: the two ranges it checked against `u16::MAX`. -/
theorem getSockets_eq_ok {bindable : UInt16 → Bool} {args : SocketArgs}
    {tpuQuicPorts tpuFwdQuicPorts : List UInt16}
    (h : getSockets bindable args = .ok (tpuQuicPorts, tpuFwdQuicPorts)) :
    tpuQuicPorts = portRange args.tpuQuicPort args.numTpuQuicServers ∧
      tpuFwdQuicPorts = portRange args.tpuQuicFwdPort args.numTpuFwdQuicServers ∧
      args.tpuQuicPort.toNat + args.numTpuQuicServers.toNat < UInt16.size ∧
      args.tpuQuicFwdPort.toNat + args.numTpuFwdQuicServers.toNat < UInt16.size := by
  unfold getSockets at h
  split_ifs at h
  cases htpu : checkedAdd args.tpuQuicPort args.numTpuQuicServers <;>
    cases hfwd : checkedAdd args.tpuQuicFwdPort args.numTpuFwdQuicServers <;>
    simp only [htpu, hfwd, reduceCtorEq] at h
  split_ifs at h
  cases h
  unfold checkedAdd at htpu hfwd
  split_ifs at htpu hfwd
  exact ⟨rfl, rfl, by assumption, by assumption⟩

/-- **The round robin of a configuration without wrapping.** When `get_sockets` accepts a
configuration with a server of each kind and both start ports at least `6`, every call answers
the `seq mod n`-th TPU port and the `seq mod m`-th forward port, minus `6`, as numbers. -/
theorem getTpuConfigs_of_getSockets {bindable : UInt16 → Bool} {args : SocketArgs}
    {tpuQuicPorts tpuFwdQuicPorts : List UInt16}
    (h : getSockets bindable args = .ok (tpuQuicPorts, tpuFwdQuicPorts))
    (hn : 0 < args.numTpuQuicServers.toNat) (hm : 0 < args.numTpuFwdQuicServers.toNat)
    (h6 : 6 ≤ args.tpuQuicPort.toNat) (h6Fwd : 6 ≤ args.tpuQuicFwdPort.toNat) (seq : UInt64) :
    getTpuConfigs tpuQuicPorts tpuFwdQuicPorts seq =
      .ok (args.tpuQuicPort.toNat + seq.toNat % args.numTpuQuicServers.toNat - 6,
        args.tpuQuicFwdPort.toNat + seq.toNat % args.numTpuFwdQuicServers.toNat - 6) := by
  obtain ⟨rfl, rfl, hend, hendFwd⟩ := getSockets_eq_ok h
  obtain ⟨p, hp, hpNat⟩ := roundRobin_portRange hend hn seq
  obtain ⟨q, hq, hqNat⟩ := roundRobin_portRange hendFwd hm seq
  have sub_six : ∀ r : UInt16, 6 ≤ r.toNat → (r - 6).toNat = r.toNat - 6 := fun r hr =>
    UInt16.toNat_sub_of_le _ _ (by rw [UInt16.le_def, BitVec.le_def]; exact hr)
  simp only [getTpuConfigs, hp, hq, bind, Except.bind, pure, Except.pure]
  rw [sub_six p (by omega), sub_six q (by omega), hpNat, hqNat]

/-- **Round robin, and two configurations `get_sockets` accepts that break it.** With a server
of each kind and both start ports at least `6`, every call answers the round-robin ports. With no
TPU server, the TPU port list is empty and every call panics on a remainder by zero. With
`tpu_quic_port = 1`, every call answers the TPU port `1 - 6`, wrapped to `65531`. -/
theorem tpu_configs_panic_or_wrap (seq : UInt64) :
    (∀ (bindable : UInt16 → Bool) (args : SocketArgs) (tpuQuicPorts tpuFwdQuicPorts : List UInt16),
      getSockets bindable args = .ok (tpuQuicPorts, tpuFwdQuicPorts) →
      0 < args.numTpuQuicServers.toNat → 0 < args.numTpuFwdQuicServers.toNat →
      6 ≤ args.tpuQuicPort.toNat → 6 ≤ args.tpuQuicFwdPort.toNat →
      getTpuConfigs tpuQuicPorts tpuFwdQuicPorts seq =
        .ok (args.tpuQuicPort.toNat + seq.toNat % args.numTpuQuicServers.toNat - 6,
          args.tpuQuicFwdPort.toNat + seq.toNat % args.numTpuFwdQuicServers.toNat - 6)) ∧
    getSockets (fun _ => true) ⟨11228, 0, 11229, 1⟩ = .ok ([], [11229]) ∧
      getTpuConfigs [] [11229] seq =
        .error "attempt to calculate the remainder with a divisor of zero" ∧
    getSockets (fun _ => true) ⟨1, 1, 11229, 1⟩ = .ok ([1], [11229]) ∧
      getTpuConfigs [1] [11229] seq = .ok (65531, 11223) := by
  refine ⟨fun _ _ _ _ h hn hm h6 h6Fwd => getTpuConfigs_of_getSockets h hn hm h6 h6Fwd seq,
    by decide, rfl, by decide, ?_⟩
  simp [getTpuConfigs, roundRobin, bind, Except.bind, pure, Except.pure]

end JitoRelayer
