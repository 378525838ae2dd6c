import Mathlib.Data.List.AList
import Mathlib.Algebra.Order.Ring.Int
import Mathlib.Algebra.Order.Ring.Nat

/-!
# The data every component shares

The types the relayer's crates take from `solana_sdk`, `std::net`, `chrono` and `tonic`:

* `Pubkey` (`solana_sdk::pubkey::Pubkey`): 32 bytes. It can only be built from 32 bytes, so
  `Pubkey.tryFrom` is the length check of `Pubkey::try_from(Vec<u8>)`.
* `IpAddr` (`std::net::IpAddr`).
* A `Slot` and the `u64` counters are `Nat`s, with the wrapping `+` and `-` of a release build
  (`wrappingAdd`, `wrappingSub`) and `saturating_add_assign!` (`saturatingAdd`) where the code
  uses them.
* A time is a number of nanoseconds: an `Instant` a `Nat`, a `NaiveDateTime` an `Int`.
* `HealthState` (`health_manager.rs`) and `Status` (`tonic::Status`: a code and a message).

A `HashMap` or `HashSet` of the source is an `AList` (keys without repetition); its iteration
order is the order of the `AList`'s entries, which the results below never depend on.
-/

namespace JitoRelayer

/-- `solana_sdk::pubkey::PUBKEY_BYTES`. -/
def pubkeyBytes : Nat := 32

/-- `solana_sdk::signature::SIGNATURE_BYTES`. -/
def signatureBytes : Nat := 64

/-- A validator identity: 32 bytes, compared by bytes. -/
structure Pubkey where
  bytes : List UInt8
  length_eq : bytes.length = pubkeyBytes
  deriving DecidableEq

/-- `Pubkey::try_from(Vec<u8>)`: the bytes are a pubkey when there are 32 of them. -/
def Pubkey.tryFrom (b : List UInt8) : Option Pubkey :=
  if h : b.length = pubkeyBytes then some ⟨b, h⟩ else none

theorem Pubkey.tryFrom_eq_some {b : List UInt8} {pk : Pubkey} (h : Pubkey.tryFrom b = some pk) :
    pk.bytes = b := by
  unfold Pubkey.tryFrom at h
  split at h
  · cases h; rfl
  · cases h

/-- `std::net::IpAddr`. -/
inductive IpAddr
  | V4 (octets : BitVec 32)
  | V6 (segments : BitVec 128)
  deriving DecidableEq

/-- The largest `u64`. -/
def u64Max : Nat := 2 ^ 64 - 1

/-- `a + b` on `u64` in a release build: it wraps. -/
def wrappingAdd (a b : Nat) : Nat := (a + b) % 2 ^ 64

/-- `a - b` on `u64` in a release build: it wraps. -/
def wrappingSub (a b : Nat) : Nat := (a + 2 ^ 64 - b % 2 ^ 64) % 2 ^ 64

theorem wrappingAdd_of_lt {a b : Nat} (h : a + b < 2 ^ 64) : wrappingAdd a b = a + b :=
  Nat.mod_eq_of_lt h

theorem wrappingSub_of_le {a b : Nat} (h : b ≤ a) (h' : a - b < 2 ^ 64) : wrappingSub a b = a - b := by
  unfold wrappingSub
  omega

/-- `saturating_add_assign!` on `u64`. -/
def saturatingAdd (a b : Nat) : Nat := min (a + b) u64Max

/-- `HealthState` (`health_manager.rs`). -/
inductive HealthState
  | Unhealthy
  | Healthy
  deriving DecidableEq, Repr

/-- The codes of `tonic::Status` the services return. -/
inductive Code
  | internal
  | resourceExhausted
  | invalidArgument
  | permissionDenied
  deriving DecidableEq, Repr

/-- `tonic::Status`: a code and a message. -/
structure Status where
  code : Code
  message : String
  deriving DecidableEq, Repr

/-- `Status::internal`. -/
def Status.internal (m : String) : Status := ⟨.internal, m⟩

/-- `Status::resource_exhausted`. -/
def Status.resourceExhausted (m : String) : Status := ⟨.resourceExhausted, m⟩

/-- `Status::invalid_argument`. -/
def Status.invalidArgument (m : String) : Status := ⟨.invalidArgument, m⟩

/-- `Status::permission_denied`. -/
def Status.permissionDenied (m : String) : Status := ⟨.permissionDenied, m⟩

/-- Results are compared, so that a run's log can be evaluated. -/
instance instDecidableEqExcept {ε α : Type} [DecidableEq ε] [DecidableEq α] :
    DecidableEq (Except ε α)
  | .ok a, .ok b => decidable_of_iff (a = b) ⟨congrArg _, fun h => by cases h; rfl⟩
  | .error a, .error b => decidable_of_iff (a = b) ⟨congrArg _, fun h => by cases h; rfl⟩
  | .ok _, .error _ => isFalse nofun
  | .error _, .ok _ => isFalse nofun

section Fold

variable {α β : Type} [DecidableEq α]

/-- Inserting the pairs of `l` in order (`HashMap::extend`, `DashMap::insert` in a loop): a key
holds the value of its last pair, and what it held before when it has none. -/
theorem lookup_foldl_insert (l : List (α × β)) (m : AList fun _ : α => β) (k : α) :
    (l.foldl (fun m e => m.insert e.1 e.2) m).lookup k =
      ((l.reverse.find? fun e => e.1 = k).map Prod.snd).or (m.lookup k) := by
  induction l generalizing m with
  | nil => rfl
  | cons e l ih =>
    rw [List.foldl_cons, ih, List.reverse_cons, List.find?_append]
    cases l.reverse.find? fun e => e.1 = k with
    | some _ => rfl
    | none =>
      by_cases h : e.1 = k
      · subst h; simp
      · simp [h, AList.lookup_insert_ne (Ne.symm h)]

/-- When no key has two values in `l`, the order of the inserts does not matter: a key holds a
value exactly when `l` pairs it with that value. -/
theorem lookup_foldl_insert_of_functional {l : List (α × β)}
    (hfun : ∀ k v₁ v₂, (k, v₁) ∈ l → (k, v₂) ∈ l → v₁ = v₂) (k : α) (v : β) :
    (l.foldl (fun m e => m.insert e.1 e.2) (∅ : AList fun _ : α => β)).lookup k = some v ↔
      (k, v) ∈ l := by
  rw [lookup_foldl_insert, AList.lookup_empty, Option.or_none]
  constructor
  · intro h
    obtain ⟨⟨k', v'⟩, hp, rfl⟩ := Option.map_eq_some'.mp h
    obtain rfl : k' = k := of_decide_eq_true (List.find?_some hp :)
    exact List.mem_reverse.mp (List.mem_of_find?_eq_some hp)
  · intro h
    cases hp : l.reverse.find? (fun e => e.1 = k) with
    | none => exact absurd (decide_eq_true rfl) (List.find?_eq_none.mp hp _ (List.mem_reverse.mpr h))
    | some p =>
      obtain ⟨k', v'⟩ := p
      obtain rfl : k' = k := of_decide_eq_true (List.find?_some hp :)
      exact congrArg some (hfun _ _ _ (List.mem_reverse.mp (List.mem_of_find?_eq_some hp)) h)

/-- Erasing the keys of `ks` in order: a key of `ks` is gone, any other keeps its value. -/
theorem lookup_foldl_erase (ks : List α) (m : AList fun _ : α => β) (k : α) :
    (ks.foldl (fun m j => m.erase j) m).lookup k = if k ∈ ks then none else m.lookup k := by
  induction ks generalizing m with
  | nil => simp
  | cons j ks ih =>
    rw [List.foldl_cons, ih]
    by_cases h : k = j
    · subst h; simp
    · simp [h, AList.lookup_erase_ne h]

end Fold

end JitoRelayer
