import JitoRelayer.Basic
import Mathlib.Data.List.Dedup

/-!
# The leader schedule (`relayer/src/schedule_cache.rs`)

`LeaderScheduleUpdatingHandle` reads a `HashMap<Slot, Pubkey>` that the refresh thread replaces
as a whole; a reader sees one snapshot, here a `LeaderSchedule` value.

* `leaderForSlot`, `leadersForSlots`, `isScheduledValidator`: the three readers.
* `mem_leadersForSlots`: a pubkey is among the leaders of some slots iff the schedule maps one
  of the slots to it.
-/

namespace JitoRelayer

/-- A snapshot of the shared `HashMap<Slot, Pubkey>`. -/
abbrev LeaderSchedule := AList (fun _ : Nat => Pubkey)

namespace LeaderSchedule

/-- `leader_for_slot`. -/
def leaderForSlot (schedule : LeaderSchedule) (slot : Nat) : Option Pubkey :=
  schedule.lookup slot

/-- `leaders_for_slots`: the scheduled leaders of `slots`, collected into a `HashSet`. -/
def leadersForSlots (schedule : LeaderSchedule) (slots : List Nat) : List Pubkey :=
  (slots.filterMap schedule.lookup).dedup

/-- `is_scheduled_validator`. -/
def isScheduledValidator (schedule : LeaderSchedule) (pubkey : Pubkey) : Bool :=
  schedule.entries.any fun e => e.2 = pubkey

theorem mem_leadersForSlots {schedule : LeaderSchedule} {slots : List Nat} {pk : Pubkey} :
    pk ∈ schedule.leadersForSlots slots ↔ ∃ s ∈ slots, schedule.lookup s = some pk := by
  simp [leadersForSlots, List.mem_dedup]

theorem nodup_leadersForSlots (schedule : LeaderSchedule) (slots : List Nat) :
    (schedule.leadersForSlots slots).Nodup :=
  List.nodup_dedup _

end LeaderSchedule

end JitoRelayer
